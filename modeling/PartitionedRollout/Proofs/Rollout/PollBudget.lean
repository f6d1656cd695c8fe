/-
# PartitionedRollout.Proofs.Rollout.PollBudget -- a poll ends within its budget

A metronome is a world in which time passes in whole milliseconds, and only while somebody sleeps: a
sleep ends at its deadline, a started millisecond counted as a whole one. Checks fail at once, and
nobody says stop. In such a world a poll without random draws gives up in the end.

What makes it do so is that every wait takes a millisecond at least: the interval starts above zero,
and growing does not shrink it. What keeps it in range is that an interval grows only after a wait
for it that ended within the budget. `Ticking` says both of every round, and more waits than the
budget has milliseconds do not fit in it.

Only the number of checks can get out of range, which is a machine word. If every wait takes one
millisecond, a budget that reaches into the last millisecond below 2^32 - 1 may leave room for one
check more than the word can say. `Spent.countable` draws the line.
-/

import PartitionedRollout.Proofs.Rollout.Polling
import PartitionedRollout.Proofs.Rollout.Rehearsal
import PartitionedRollout.Proofs.TimeSpan.Scaling

namespace PartitionedRollout

open Program

/-! ## Worlds -/

/-- In the good states of this world nobody says stop, every check fails, and time passes in whole
milliseconds, and only while somebody sleeps. -/
structure Metronome {σ : Type} (answer : σ → (r : Request) → r.Reply × σ) (clock : σ → Nat)
    (good : σ → Prop) : Prop where
  /-- The signal is not up. -/
  stopping : ∀ s, good s → (answer s .stopping).1 = false ∧ good (answer s .stopping).2 ∧
    clock (answer s .stopping).2 = clock s
  /-- A check fails and takes no time. -/
  check : ∀ s p w, good s → (∃ failure, (answer s (.check p w)).1 = some (.error failure)) ∧
    good (answer s (.check p w)).2 ∧ clock (answer s (.check p w)).2 = clock s
  /-- The clock shows the milliseconds, as long as they can be counted. -/
  now : ∀ s, good s → clock s < UInt64.size → (answer s .now).1.nanos = clock s * nanosPerMilli ∧
    good (answer s .now).2 ∧ clock (answer s .now).2 = clock s
  /-- A sleep ends at its deadline, rounded up. -/
  sleep : ∀ s d, good s → d.ceilMillis < UInt32.size → (answer s (.sleep d)).1 = false ∧
    good (answer s (.sleep d)).2 ∧ clock (answer s (.sleep d)).2 = clock s + d.ceilMillis

/-! ## Intervals without random draws -/

/-- The spacing grows by a half and is not random. -/
structure Backoff.Steady (b : Backoff) : Prop where
  /-- The interval starts with half a second, unless the maximum is smaller. -/
  initial : b.initialInterval = .ofMillis 500
  /-- It grows by a half. -/
  multiplier : b.multiplier = .threeHalves
  /-- Nothing is drawn. -/
  factor : b.randomizationFactor = .zero
  /-- There is some time between checks. -/
  positive : 0 < b.maxInterval.nanos

/-- An interval that a poll may come to: growing does not shrink it, and it is capped. -/
structure Backoff.Admits (b : Backoff) (interval : TimeSpan) : Prop where
  /-- It is not shorter than the first one. -/
  first_le : b.firstInterval.nanos ≤ interval.nanos
  /-- It is not longer than the longest one. -/
  le_max : interval.nanos ≤ b.maxInterval.nanos

namespace Backoff.Steady

variable {b : Backoff} {interval wait : TimeSpan} {ws : List Exchange}

theorem ofTiming {timing : Timing} (h : 0 < timing.maxPollingInterval.nanos) :
    ((Backoff.ofTiming timing).withoutJitter).Steady :=
  ⟨rfl, rfl, rfl, h⟩

theorem firstInterval_eq (h : b.Steady) :
    b.firstInterval.nanos = min (500 * nanosPerMilli) b.maxInterval.nanos := by
  rw [firstInterval, TimeSpan.nanos_min, h.initial]
  rfl

theorem firstInterval_pos (h : b.Steady) : 0 < b.firstInterval.nanos := by
  rw [h.firstInterval_eq]
  exact Nat.lt_min.2 ⟨by decide, h.positive⟩

theorem firstInterval_le (h : b.Steady) : b.firstInterval.nanos ≤ 500 * nanosPerMilli := by
  rw [h.firstInterval_eq]
  exact Nat.min_le_left _ _

theorem admits_firstInterval (h : b.Steady) : b.Admits b.firstInterval := by
  refine ⟨Nat.le_refl _, ?_⟩
  rw [h.firstInterval_eq]
  exact Nat.min_le_right _ _

/-- There is some time between two checks. -/
theorem pos_of_admits (h : b.Steady) (hinterval : b.Admits interval) : 0 < interval.nanos :=
  Nat.lt_of_lt_of_le h.firstInterval_pos hinterval.first_le

/-- An interval that is not too long grows to one that is at most twice as long. -/
theorem grow? (h : b.Steady) (hinterval : b.Admits interval)
    (hfits : 2 * interval.nanos < UInt64.size * nanosPerSecond) :
    ∃ next, b.grow? interval = some next ∧ b.Admits next ∧ next.nanos ≤ 2 * interval.nanos := by
  have hfactor : Binary64.threeHalves.atLeastOne? = some ⟨3 * 2 ^ 51, 2 ^ 52⟩ := by decide +kernel
  obtain ⟨d, hd, hlow, hhigh⟩ := TimeSpan.scale?_oneAndAHalf (f := ⟨3 * 2 ^ 51, 2 ^ 52⟩)
    (by decide) (by norm_num [Fraction.value]) (h.pos_of_admits hinterval) hfits
  refine ⟨min d b.maxInterval, ?_, ⟨?_, ?_⟩, ?_⟩
  · rw [Backoff.grow?, h.multiplier, hfactor, Option.bind_some, hd]
    rfl
  · rw [TimeSpan.nanos_min]
    exact Nat.le_min.2 ⟨Nat.le_trans hinterval.first_le hlow, h.admits_firstInterval.le_max⟩
  · rw [TimeSpan.nanos_min]
    exact Nat.min_le_right _ _
  · rw [TimeSpan.nanos_min]
    exact Nat.le_trans (Nat.min_le_left _ _) hhigh

/-- A wait is the interval, and no call is made to determine it. -/
theorem wait_eq (h : b.Steady) (interval : TimeSpan) : b.wait interval = .done interval := by
  unfold wait
  rw [h.factor]
  split
  · rfl
  · rfl

theorem spaced (h : b.Steady) (hwait : Spaced b interval ws wait) : ws = [] ∧ wait = interval := by
  cases hwait with
  | plain => exact ⟨rfl, rfl⟩
  | drawn _ hpositive =>
    rw [h.factor] at hpositive
    cases hpositive

end Backoff.Steady

/-! ## Rounds on a metronome -/

section

variable {σ : Type} {answer : σ → (r : Request) → r.Reply × σ} {clock : σ → Nat} {good : σ → Prop}
  {s s' : σ} {p : UInt32} {w : WorkloadSet} {es : List Exchange}

/-- Whatever a check is said to reply, it fails. -/
theorem Metronome.fails (h : Metronome answer clock good) (hs : good s)
    {reply : Option (Except Failure Unit)}
    (htraced : Traced answer s (⟨.stopping, false⟩ :: ⟨.check p w, reply⟩ :: es) s') :
    ∃ failure, reply = some (.error failure) := by
  obtain ⟨-, hreply, -⟩ := htraced
  obtain ⟨-, hgood, -⟩ := h.stopping s hs
  obtain ⟨⟨failure, hfailure⟩, -⟩ := h.check _ p w hgood
  exact ⟨failure, hreply.trans hfailure⟩

/-- A check that failed, and the looks before and after it, take no time. -/
theorem Metronome.missed (h : Metronome answer clock good) (hs : good s)
    (hclock : clock s < UInt64.size) {last : Failure} {t : TimeSpan}
    (htraced : Traced answer s (missed p w last t [] ++ es) s') :
    ∃ u, good u ∧ clock u = clock s ∧ t.nanos = clock s * nanosPerMilli ∧
      Traced answer u es s' := by
  obtain ⟨-, -, ht, htraced⟩ := htraced
  obtain ⟨-, hs₁, hclock₁⟩ := h.stopping s hs
  obtain ⟨-, hs₂, hclock₂⟩ := h.check _ p w hs₁
  rw [← hclock₁, ← hclock₂] at hclock ⊢
  obtain ⟨hnow, hs₃, hclock₃⟩ := h.now _ hs₂ hclock
  exact ⟨_, hs₃, hclock₃, by rw [← hnow]; exact congrArg TimeSpan.nanos ht, htraced⟩

/-- What holds before a round of a poll that was begun at a millisecond. -/
structure Ticking (b : Backoff) (clock : σ → Nat) (good : σ → Prop) (begun rounds : Nat)
    (interval : TimeSpan) (n : UInt32) (s : σ) : Prop where
  /-- The state is good. -/
  good : good s
  /-- Every check but this one was followed by a wait of a millisecond at least. -/
  later : begun + n.toNat ≤ clock s
  /-- The waits have ended within the budget. -/
  within : clock s ≤ begun + b.maxElapsed.ceilMillis
  /-- There are rounds left. -/
  rounds : b.maxElapsed.ceilMillis < n.toNat + rounds
  /-- The interval is one that the poll may come to. -/
  admits : b.Admits interval
  /-- It is bounded by the budget. -/
  short : interval.nanos ≤ 500 * nanosPerMilli + 2 * b.maxElapsed.nanos
  /-- The wait before this round fitted in what the others had left of the budget. -/
  previous : ∀ m, n.toNat = m + 1 →
    m * nanosPerMilli + b.firstInterval.nanos ≤ b.maxElapsed.nanos
  /-- Intervals that never exceed a millisecond take one each. -/
  paced : b.maxInterval.nanos ≤ nanosPerMilli → clock s = begun + n.toNat

/-- How a poll ends after so many checks. -/
structure Spent (b : Backoff) (begun ended n : Nat) (es : List Exchange) (attempts : UInt32)
    (elapsed : TimeSpan) : Prop where
  /-- All checks failed. -/
  failed : ∃ failures, checks es = misses failures
  /-- They were counted, in a machine word. -/
  counted : attempts = .ofNat (n + (checks es).length)
  /-- The word is long enough exactly if the budget is below this line. -/
  countable : n + (checks es).length < UInt32.size ↔
    b.maxElapsed.nanos < (UInt32.size - 2) * nanosPerMilli + b.maxInterval.nanos
  /-- There are not more than the budget has milliseconds, and one. -/
  attempts_le : n + (checks es).length ≤ b.maxElapsed.ceilMillis + 1
  /-- The elapsed time is that of the world. -/
  elapsed_eq : elapsed.nanos = (ended - begun) * nanosPerMilli
  /-- It is within the budget, rounded up. -/
  elapsed_le : elapsed.nanos ≤ b.maxElapsed.ceilMillis * nanosPerMilli
  /-- Every wait took some time. -/
  slept : ∀ d cut, ⟨.sleep d, cut⟩ ∈ es → 0 < d.nanos

/-- One round more, before the others. -/
theorem Spent.again {b : Backoff} {wait elapsed t : TimeSpan} {begun ended n : Nat}
    {attempts : UInt32} {last : Failure} (h : Spent b begun ended (n + 1) es attempts elapsed)
    (hwait : 0 < wait.nanos) :
    Spent b begun ended n (missed p w last t [] ++ ⟨.sleep wait, false⟩ :: es) attempts
      elapsed := by
  obtain ⟨⟨failures, hfailures⟩, hcounted, hcountable, hattempts, helapsed, hin, hslept⟩ := h
  have hchecks : checks (missed p w last t [] ++ ⟨.sleep wait, false⟩ :: es) =
      some (.error last) :: checks es := rfl
  have hlength : n + (checks (missed p w last t [] ++ ⟨.sleep wait, false⟩ :: es)).length =
      n + 1 + (checks es).length := by
    rw [hchecks, List.length_cons]
    omega
  rw [← hlength] at hcounted hcountable hattempts
  refine ⟨⟨last :: failures, ?_⟩, hcounted, hcountable, hattempts, helapsed, hin, ?_⟩
  · rw [hchecks, hfailures]
    rfl
  · intro d cut hmem
    rcases List.mem_append.1 hmem with hmem | hmem
    · simp [missed] at hmem
    · rcases List.mem_cons.1 hmem with heq | hmem
      · cases heq
        exact hwait
      · exact hslept d cut hmem

/-- A wait within the budget can be slept, and twice the wait is in range. -/
theorem short_of_within {budget interval : TimeSpan} {elapsed : Nat}
    (hbudget : budget.nanos < (UInt32.size - 1) * nanosPerMilli)
    (h : elapsed + interval.nanos ≤ budget.nanos) :
    interval.ceilMillis < UInt32.size ∧ 2 * interval.nanos < UInt64.size * nanosPerSecond := by
  simp only [TimeSpan.ceilMillis, nanosPerMilli, nanosPerSecond, UInt32.size, UInt64.size] at *
  omega

namespace Ticking

variable {b : Backoff} {begun rounds : Nat} {start interval next t : TimeSpan} {n : UInt32}

/-- A wait within the budget leaves room in the number of checks. -/
theorem count_succ (hb : b.Steady)
    (hbudget : b.maxElapsed.nanos < (UInt32.size - 1) * nanosPerMilli)
    (h : Ticking b clock good begun rounds interval n s)
    (hfits : (clock s - begun) * nanosPerMilli + interval.nanos ≤ b.maxElapsed.nanos) :
    (n + 1).toNat = n.toNat + 1 := by
  have hpositive := hb.pos_of_admits h.admits
  have hlater := h.later
  rw [UInt32.toNat_add, UInt32.toNat_one]
  refine Nat.mod_eq_of_lt ?_
  simp only [nanosPerMilli, UInt32.size] at *
  omega

/-- When the next wait does not fit in the budget, the word is long enough for the number of checks
exactly if the budget is below the line. -/
theorem countable (hb : b.Steady)
    (hbudget : b.maxElapsed.nanos < (UInt32.size - 1) * nanosPerMilli)
    (h : Ticking b clock good begun rounds interval n s)
    (hlate : b.maxElapsed.nanos < (clock s - begun) * nanosPerMilli + interval.nanos) :
    n.toNat + 1 < UInt32.size ↔
      b.maxElapsed.nanos < (UInt32.size - 2) * nanosPerMilli + b.maxInterval.nanos := by
  have hcapped := h.admits.le_max
  have hprevious := h.previous (UInt32.size - 2)
  have hpaced := h.paced
  have hlt := n.toNat_lt_size
  rw [hb.firstInterval_eq] at hprevious
  simp only [nanosPerMilli, UInt32.size] at *
  constructor
  · -- Beyond the line every wait took a millisecond, and so many of them fitted in the budget.
    intro hcount
    by_contra hlong
    have hpace := hpaced (by omega)
    omega
  · -- Below it the last wait would not have fitted.
    intro hshort
    by_contra hcount
    have hfitted := hprevious (by omega)
    omega

/-- The calls up to a failed check leave things as they are. -/
theorem exists_missed {last : Failure} (hm : Metronome answer clock good)
    (hclock : begun + b.maxElapsed.ceilMillis < UInt64.size)
    (hstart : start.nanos = begun * nanosPerMilli)
    (h : Ticking b clock good begun rounds interval n s)
    (htraced : Traced answer s (missed p w last t [] ++ es) s') :
    ∃ u, Ticking b clock good begun rounds interval n u ∧
      (t - start).nanos = (clock u - begun) * nanosPerMilli ∧ Traced answer u es s' := by
  obtain ⟨hgood, hlater, hwithin, hrounds, hinterval, hshort, hprevious, hpaced⟩ := h
  have hnow : clock s < UInt64.size := Nat.lt_of_le_of_lt hwithin hclock
  obtain ⟨u, hu, hclocku, ht, htraced⟩ := hm.missed hgood hnow htraced
  rw [← hclocku] at hlater hwithin hpaced ht
  refine ⟨u, ⟨hu, hlater, hwithin, hrounds, hinterval, hshort, hprevious, hpaced⟩, ?_, htraced⟩
  rw [TimeSpan.nanos_sub, ht, hstart, Nat.sub_mul]

/-- The end of the next wait is in range. -/
theorem add?_ne_none {elapsed : TimeSpan}
    (hbudget : b.maxElapsed.nanos < (UInt32.size - 1) * nanosPerMilli)
    (h : Ticking b clock good begun rounds interval n s)
    (helapsed : elapsed.nanos = (clock s - begun) * nanosPerMilli) :
    elapsed.add? interval ≠ none := by
  have hwithin := h.within
  have hshort := h.short
  intro hnone
  have hlong := TimeSpan.ofNanos?_eq_none_iff.1 hnone
  simp only [TimeSpan.ceilMillis, nanosPerMilli, nanosPerSecond, UInt32.size, UInt64.size] at *
  omega

/-- A wait within the budget leads to the next round. -/
theorem again (hb : b.Steady) (hm : Metronome answer clock good)
    (hbudget : b.maxElapsed.nanos < (UInt32.size - 1) * nanosPerMilli)
    (h : Ticking b clock good begun (rounds + 1) interval n s)
    (hfits : (clock s - begun) * nanosPerMilli + interval.nanos ≤ b.maxElapsed.nanos)
    (hgrow : b.grow? interval = some next) :
    Ticking b clock good begun rounds next (n + 1) (answer s (.sleep interval)).2 := by
  have hcount := h.count_succ hb hbudget hfits
  have hpositive := hb.pos_of_admits h.admits
  obtain ⟨hgood, hlater, hwithin, hrounds, hinterval, -, -, hpaced⟩ := h
  obtain ⟨hsleep, hdouble⟩ := short_of_within hbudget hfits
  obtain ⟨next', hnext, hadmits, hshort⟩ := hb.grow? hinterval hdouble
  obtain rfl : next' = next := Option.some.inj (hnext.symm.trans hgrow)
  obtain ⟨-, hgood', hclock⟩ := hm.sleep s interval hgood hsleep
  have hone : 0 < interval.ceilMillis := by
    simp only [TimeSpan.ceilMillis, nanosPerMilli]
    omega
  refine ⟨hgood', ?_, ?_, ?_, hadmits, ?_, ?_, ?_⟩
  · rw [hcount, hclock]
    omega
  · rw [hclock]
    simp only [TimeSpan.ceilMillis, nanosPerMilli] at *
    omega
  · rw [hcount]
    omega
  · omega
  · intro m heq
    obtain rfl : n.toNat = m := Nat.succ.inj (hcount.symm.trans heq)
    have hfirst := hinterval.first_le
    have helapsed : n.toNat * nanosPerMilli ≤ (clock s - begun) * nanosPerMilli :=
      Nat.mul_le_mul_right _ (Nat.le_sub_of_add_le' hlater)
    omega
  · intro hmax
    have hcapped := hinterval.le_max
    have hmilli : interval.ceilMillis = 1 := by
      simp only [TimeSpan.ceilMillis, nanosPerMilli] at *
      omega
    rw [hcount, hclock, hmilli, hpaced hmax, Nat.add_assoc]

end Ticking

/-- From every round on, the poll gives up in the end. -/
theorem PollRounds.spent {b : Backoff} {begun rounds : Nat} {start interval : TimeSpan} {n : UInt32}
    {e : Ending (Except PollError UInt32)} (hb : b.Steady) (hm : Metronome answer clock good)
    (hbudget : b.maxElapsed.nanos < (UInt32.size - 1) * nanosPerMilli)
    (hclock : begun + b.maxElapsed.ceilMillis < UInt64.size)
    (hstart : start.nanos = begun * nanosPerMilli)
    (h : PollRounds b p w start rounds interval n es e)
    (hs : Ticking b clock good begun rounds interval n s) (htraced : Traced answer s es s') :
    ∃ attempts elapsed last, e = .ok (.error (.timedOut attempts elapsed last)) ∧
      Spent b begun (clock s') n.toNat es attempts elapsed := by
  induction h generalizing s with
  | exhausted =>
    have hlater := hs.later
    have hwithin := hs.within
    have hrounds := hs.rounds
    omega
  | interrupted =>
    obtain ⟨hreply, -⟩ := htraced
    cases hreply.trans (hm.stopping s hs.good).1
  | cut =>
    obtain ⟨failure, hfailure⟩ := hm.fails hs.good htraced
    cases hfailure
  | hit =>
    obtain ⟨failure, hfailure⟩ := hm.fails hs.good htraced
    cases hfailure
  | undrawn hwait =>
    rw [hb.wait_eq] at hwait
    cases (run_done_iff.1 hwait).2
  | overlong hwait hsum =>
    obtain ⟨rfl, rfl⟩ := hb.spaced hwait
    rw [← List.append_nil (missed ..)] at htraced
    obtain ⟨u, hu, helapsed, -⟩ := hs.exists_missed hm hclock hstart htraced
    exact absurd hsum (hu.add?_ne_none hbudget helapsed)
  | @expired _ _ t _ n last _ hwait hlate =>
    obtain ⟨rfl, rfl⟩ := hb.spaced hwait
    rw [← List.append_nil (missed ..)] at htraced
    obtain ⟨u, hu, helapsed, rfl⟩ := hs.exists_missed hm hclock hstart htraced
    rw [helapsed] at hlate
    have hcounted : n + 1 = .ofNat (n.toNat + 1) := by
      rw [UInt32.ofNat_add, UInt32.ofNat_toNat]
      rfl
    refine ⟨_, _, last, rfl, ⟨[last], rfl⟩, hcounted, hu.countable hb hbudget hlate, ?_, helapsed,
      ?_, ?_⟩
    · have hlater := hu.later
      have hwithin := hu.within
      show n.toNat + 1 ≤ b.maxElapsed.ceilMillis + 1
      omega
    · rw [helapsed]
      exact Nat.mul_le_mul_right _ (Nat.sub_le_iff_le_add'.2 hu.within)
    · simp [missed]
  | woken hwait hfits =>
    obtain ⟨rfl, rfl⟩ := hb.spaced hwait
    obtain ⟨u, hu, -, hreply, -⟩ := hs.exists_missed hm hclock hstart htraced
    obtain ⟨hsleep, -⟩ := short_of_within hbudget hfits
    cases hreply.trans (hm.sleep u _ hu.good hsleep).1
  | outgrown hwait hfits hgrow =>
    obtain ⟨rfl, rfl⟩ := hb.spaced hwait
    obtain ⟨-, hdouble⟩ := short_of_within hbudget hfits
    obtain ⟨next, hnext, -⟩ := hb.grow? hs.admits hdouble
    cases hnext.symm.trans hgrow
  | again hwait hfits hgrow _ ih =>
    obtain ⟨rfl, rfl⟩ := hb.spaced hwait
    obtain ⟨u, hu, helapsed, -, htraced⟩ := hs.exists_missed hm hclock hstart htraced
    rw [helapsed] at hfits
    obtain ⟨attempts, elapsed, last, he, hspent⟩ := ih (hu.again hb hm hbudget hfits hgrow) htraced
    rw [hu.count_succ hb hbudget hfits] at hspent
    exact ⟨attempts, elapsed, last, he, hspent.again (hb.pos_of_admits hs.admits)⟩

end

/-! ## The budget -/

namespace Cluster

/-- Nothing happens in the cluster by itself, and every check fails at once. -/
structure Failing (c : Cluster) : Prop where
  /-- The signal is not up. -/
  quiet : c.signal.stop = false
  /-- Nothing is due. -/
  idle : c.pending = []
  /-- There is a check, so the last one repeats. -/
  checked : c.checks ≠ []
  /-- The checks take no time and fail. -/
  failing : ∀ x ∈ c.checks, x.takes = none ∧ ∃ failure, x.failure = some failure

theorem Failing.nextCheck {c : Cluster} (h : c.Failing) :
    c.nextCheck.takes = none ∧ ∃ failure, c.nextCheck.failure = some failure := by
  obtain ⟨x, rest, hchecks⟩ := List.exists_cons_of_ne_nil h.checked
  have hx := h.failing x (by rw [hchecks]; exact List.mem_cons_self)
  rwa [Cluster.nextCheck, hchecks]

theorem Failing.beginCheck {c : Cluster} (h : c.Failing) : c.beginCheck.Failing := by
  obtain ⟨hquiet, hidle, hchecked, hfailing⟩ := h
  -- The first script is dropped if another one follows.
  have hsuffix : c.beginCheck.checks ≠ [] ∧ c.beginCheck.checks ⊆ c.checks := by
    unfold Cluster.beginCheck
    dsimp only [note]
    split
    next heq =>
      rw [heq]
      exact ⟨by simp, List.subset_cons_self _ _⟩
    next => exact ⟨hchecked, List.Subset.refl _⟩
  exact ⟨hquiet, hidle, hsuffix.1, fun x hx => hfailing x (hsuffix.2 hx)⟩

/-- It is not cut short, and nothing happens meanwhile. -/
theorem Failing.waitUntil {c : Cluster} (h : c.Failing) (millis : Nat) :
    (c.waitUntil (c.clock + millis) true).1 = false ∧
      (c.waitUntil (c.clock + millis) true).2.Failing ∧
      (c.waitUntil (c.clock + millis) true).2.clock = c.clock + millis := by
  obtain ⟨hquiet, hidle, hchecked, hfailing⟩ := h
  rw [Cluster.waitUntil, hquiet]
  simp only [Bool.and_false, Bool.false_eq_true, if_false]
  split
  next hnow =>
    refine ⟨rfl, ⟨hquiet, hidle, hchecked, hfailing⟩, ?_⟩
    show c.clock = c.clock + millis
    omega
  next =>
    rw [hidle]
    exact ⟨rfl, ⟨hquiet, rfl, hchecked, hfailing⟩, rfl⟩

end Cluster

namespace FailingCluster

/-- What is rolled out. -/
def desired : WorkloadSet :=
  .ofSpec ⟨"db", "a"⟩ 1 (.ofImage "v2")

/-- A cluster that never comes to run it. -/
def cluster : Cluster :=
  { Cluster.ofStore .empty ⟨"db", "a"⟩ with checks := [⟨none, some (.plain "not updated")⟩] }

end FailingCluster

namespace FailingCluster

/-- A budget that ends within the last millisecond below 2^32 - 1, and the shortest intervals. -/
def timing : Timing :=
  ⟨⟨(UInt32.size - 1) * nanosPerMilli - 1, by decide⟩, ⟨1, by decide⟩⟩

end FailingCluster

end PartitionedRollout
