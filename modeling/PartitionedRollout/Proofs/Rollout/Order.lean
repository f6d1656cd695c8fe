/-
# PartitionedRollout.Proofs.Rollout.Order -- the order of the calls of a rollout

The calls of a run fall into visits: a visit is a pre-check together with the calls up to the next
pre-check. What has to be true of the visits so far at a stage of the protocol is `Fits`, and every
move preserves it. From that the order of all calls of a run is read off at once, for any number
of replicas and any replies.
-/

import PartitionedRollout.Proofs.Rollout.Protocol

namespace PartitionedRollout

open Program

/-! ## Calls -/

namespace Program.Exchange

/-- The ordinal that a pre-check is about. -/
def precheck? : Exchange → Option UInt32
  | ⟨.verify p _, _⟩ => some p
  | _ => none

/-- The partition that an update made durable. -/
def persisted? : Exchange → Option UInt32
  | ⟨.update w, .ok _⟩ => w.spec.partition
  | _ => none

/-- The call is an update. -/
def isUpdate : Exchange → Bool
  | ⟨.update _, _⟩ => true
  | _ => false

/-- The reply ends a rollout. A conflict and a check that fails do not: those steps have budgets. -/
def Failed : Exchange → Prop
  | ⟨.awaitReady, .error _⟩ => True
  | ⟨.update _, .error e⟩ => e.isConflict = false
  | ⟨.get _, .error _⟩ => True
  | ⟨.probeHealth _ _, .error _⟩ => True
  | ⟨.check _ _, none⟩ => True
  | ⟨.stopping, stopped⟩ => stopped = true
  | ⟨.sleep _, stopped⟩ => stopped = true
  | _ => False

/-- The call belongs to a poll that has not seen a successful check. -/
def OfPoll : Exchange → Prop
  | ⟨.check _ _, some (.ok ())⟩ => False
  | ⟨.check _ _, _⟩ => True
  | ⟨.stopping, _⟩ => True
  | ⟨.now, _⟩ => True
  | ⟨.draw _ _, _⟩ => True
  | ⟨.sleep _, _⟩ => True
  | _ => False

end Program.Exchange

/-! ## Visits -/

/-- A pre-check and the calls that follow it. -/
structure Visit where
  /-- The ordinal that was pre-checked. -/
  ordinal : UInt32
  /-- Whether it had converged before. -/
  verdict : Except Failure Unit
  /-- The calls after the pre-check, in order. -/
  calls : List Exchange

namespace Visit

/-- The visits after one more call, latest first. -/
def note : List Visit → Exchange → List Visit
  | vs, ⟨.verify p _, verdict⟩ => ⟨p, verdict, []⟩ :: vs
  | v :: vs, x => { v with calls := v.calls ++ [x] } :: vs
  | [], _ => []

/-- The ordinal had converged before, and nothing was done about it. -/
def Skipped (v : Visit) : Prop :=
  v.verdict = .ok () ∧ ∀ x ∈ v.calls, x.request = .stopping

/-- The ordinal was updated: its partition was made durable, a check of it succeeded, the set was
read anew and the cluster was healthy, in this order. -/
def Updated (id : WorkloadId) (v : Visit) : Prop :=
  (∃ cause, v.verdict = .error cause) ∧
    ∃ sent stored desired latest, sent.spec.partition = some v.ordinal ∧
      [⟨.update sent, .ok stored⟩, ⟨.check v.ordinal desired, some (.ok ())⟩, ⟨.get id, .ok latest⟩,
        ⟨.probeHealth (Strategy.checkpoint id) v.ordinal, .ok ()⟩].Sublist v.calls

/-- The ordinal was handled to its end. -/
def Complete (id : WorkloadId) (v : Visit) : Prop :=
  v.Skipped ∨ v.Updated id

/-- The ordinal may be updated: it had not converged, and all replicas were ready. -/
def Allowed (v : Visit) : Prop :=
  (∃ cause, v.verdict = .error cause) ∧ ⟨.awaitReady, .ok ()⟩ ∈ v.calls

/-- The number of updates that were attempted. -/
def attempts (v : Visit) : Nat :=
  v.calls.countP Exchange.isUpdate

end Visit

/-- The visits that calls make, latest first. -/
def visits (es : List Exchange) : List Visit :=
  es.foldl Visit.note []

/-! ## What holds of the visits at a stage -/

/-- The visits, latest first, are those of the ordinals from `p` up to the highest one, and each was
handled to its end. -/
inductive Covers (id : WorkloadId) (count : Nat) : Nat → List Visit → Prop where
  | nil : Covers id count count []
  | cons {p : Nat} {v : Visit} {vs : List Visit} (ordinal : v.ordinal = .ofNat p)
      (complete : v.Complete id) (above : Covers id count (p + 1) vs) : Covers id count p (v :: vs)

/-- The ordinal that is being updated at a stage. -/
def Stage.updating? : Stage → Option Nat
  | .outdated p _ => some p
  | .ready p .. => some p
  | .refused p .. => some p
  | .rested p .. => some p
  | .polling _ p _ => some p
  | .converged p _ => some p
  | .reread p _ => some p
  | _ => none

/-- What the calls after a pre-check have achieved when an ordinal is being updated. -/
def Stage.Achieved (policy : ConflictRetry) (id : WorkloadId) : Stage → List Exchange → Prop
  | .outdated _ _, calls => calls = []
  | .ready _ _ retries _, calls =>
    ⟨.awaitReady, .ok ()⟩ ∈ calls ∧ calls.countP Exchange.isUpdate + retries = policy.retries
  | .refused _ _ retries, calls =>
    ⟨.awaitReady, .ok ()⟩ ∈ calls ∧ calls.countP Exchange.isUpdate + retries = policy.retries
  | .rested _ _ retries, calls =>
    ⟨.awaitReady, .ok ()⟩ ∈ calls ∧ calls.countP Exchange.isUpdate + retries = policy.retries
  | .polling _ p _, calls => ∃ sent stored, sent.spec.partition = some (.ofNat p) ∧
      [⟨.update sent, .ok stored⟩].Sublist calls
  | .converged p _, calls => ∃ sent stored desired, sent.spec.partition = some (.ofNat p) ∧
      [⟨.update sent, .ok stored⟩, ⟨.check (.ofNat p) desired, some (.ok ())⟩].Sublist calls
  | .reread p _, calls => ∃ sent stored desired latest, sent.spec.partition = some (.ofNat p) ∧
      [⟨.update sent, .ok stored⟩, ⟨.check (.ofNat p) desired, some (.ok ())⟩,
        ⟨.get id, .ok latest⟩].Sublist calls
  | _, _ => True

/-- What holds of the visits, latest first, when a rollout of `count` replicas is at a stage. -/
inductive Fits (policy : ConflictRetry) (id : WorkloadId) (count : Nat) :
    Stage → List Visit → Prop where
  | between {p : Nat} {w : WorkloadSet} {vs : List Visit} (above : Covers id count p vs) :
      Fits policy id count (.between p w) vs
  | cleared {p : Nat} {w : WorkloadSet} {vs : List Visit} (above : Covers id count (p + 1) vs) :
      Fits policy id count (.cleared p w) vs
  | within {s : Stage} {p : Nat} {cause : Failure} {calls : List Exchange} {vs : List Visit}
      (updating : s.updating? = some p) (achieved : s.Achieved policy id calls)
      (above : Covers id count (p + 1) vs) :
      Fits policy id count s (⟨.ofNat p, .error cause, calls⟩ :: vs)
  | ended {p : Nat} {vs : List Visit} (above : Covers id count p vs.tail) :
      Fits policy id count .ended vs

namespace Covers

variable {id : WorkloadId} {count p : Nat} {vs : List Visit}

theorem le (h : Covers id count p vs) : p ≤ count := by
  induction h with
  | nil => exact Nat.le_refl _
  | cons _ _ _ ih => exact Nat.le_of_succ_le ih

/-- Every ordinal that is covered has a visit that handled it. -/
theorem exists_visit (h : Covers id count p vs) {q : Nat} (hp : p ≤ q) (hq : q < count) :
    ∃ v ∈ vs, v.ordinal = .ofNat q ∧ v.Complete id := by
  induction h with
  | nil => omega
  | @cons p v vs ordinal complete _ ih =>
    rcases Nat.eq_or_lt_of_le hp with rfl | hp
    · exact ⟨v, List.mem_cons_self, ordinal, complete⟩
    · obtain ⟨u, hu, h⟩ := ih hp
      exact ⟨u, List.mem_cons_of_mem _ hu, h⟩

theorem complete_of_mem (h : Covers id count p vs) {v : Visit} (hv : v ∈ vs) : v.Complete id := by
  induction h with
  | nil => cases hv
  | cons _ complete _ ih =>
    rcases List.mem_cons.1 hv with rfl | hv
    · exact complete
    · exact ih hv

theorem tail (h : Covers id count p vs) : ∃ q, Covers id count q vs.tail := by
  cases h with
  | nil => exact ⟨count, .nil⟩
  | cons _ _ above => exact ⟨_, above⟩

/-- A look at the signal between two visits changes nothing. -/
theorem note_stopping (h : Covers id count p vs) (stopped : Bool) :
    Covers id count p (Visit.note vs ⟨.stopping, stopped⟩) := by
  cases h with
  | nil => exact .nil
  | @cons p v vs ordinal complete above =>
    refine .cons ordinal ?_ above
    rcases complete with ⟨hv, hcalls⟩ | ⟨hv, sent, stored, desired, latest, hp, hcalls⟩
    · refine .inl ⟨hv, ?_⟩
      intro x hx
      rcases List.mem_append.1 hx with hx | hx
      · exact hcalls x hx
      · rw [List.mem_singleton.1 hx]
    · exact .inr ⟨hv, sent, stored, desired, latest, hp,
        hcalls.trans (List.sublist_append_left _ _)⟩

end Covers

namespace Fits

variable {policy : ConflictRetry} {id : WorkloadId} {count p : Nat} {s t : Stage}
  {vs : List Visit}

theorem covers_of_between {w : WorkloadSet} (h : Fits policy id count (.between p w) vs) :
    Covers id count p vs := by
  cases h with
  | between above => exact above
  | within updating => simp [Stage.updating?] at updating

theorem covers_of_cleared {w : WorkloadSet} (h : Fits policy id count (.cleared p w) vs) :
    Covers id count (p + 1) vs := by
  cases h with
  | cleared above => exact above
  | within updating => simp [Stage.updating?] at updating

/-- While an ordinal is being updated, the latest visit is about it, and all ordinals above are
done. -/
theorem current (h : Fits policy id count s vs) (hs : s.updating? = some p) :
    ∃ cause calls earlier, vs = ⟨.ofNat p, .error cause, calls⟩ :: earlier ∧
      s.Achieved policy id calls ∧ Covers id count (p + 1) earlier := by
  cases h with
  | between => simp [Stage.updating?] at hs
  | cleared => simp [Stage.updating?] at hs
  | ended => simp [Stage.updating?] at hs
  | within updating achieved above =>
    obtain rfl := Option.some.inj (updating.symm.trans hs)
    exact ⟨_, _, _, rfl, achieved, above⟩

/-- One call preserves what holds of the visits. -/
theorem step {x : Exchange} (hm : Move policy id s x t) (h : Fits policy id count s vs) :
    Fits policy id count t (Visit.note vs x) := by
  cases hm with
  | proceed => exact .cleared (h.covers_of_between.note_stopping _)
  | interrupt => exact .ended (h.covers_of_between.note_stopping _).tail.choose_spec
  | skip => exact .between (.cons rfl (.inl ⟨rfl, by simp⟩) h.covers_of_cleared)
  | begin => exact .within rfl rfl h.covers_of_cleared
  | allow =>
    obtain ⟨cause, calls, earlier, rfl, rfl, above⟩ := h.current rfl
    exact .within rfl ⟨by simp, by simp [Exchange.isUpdate]⟩ above
  | persist =>
    obtain ⟨cause, calls, earlier, rfl, -, above⟩ := h.current rfl
    exact .within rfl ⟨_, _, rfl, List.sublist_append_right _ _⟩ above
  | conflict =>
    obtain ⟨cause, calls, earlier, rfl, ⟨ready, budget⟩, above⟩ := h.current rfl
    refine .within rfl ⟨by simp [ready], ?_⟩ above
    -- One more attempt, one retry less.
    simp [Exchange.isUpdate]
    omega
  | rest =>
    obtain ⟨cause, calls, earlier, rfl, ⟨ready, budget⟩, above⟩ := h.current rfl
    exact .within rfl ⟨by simp [ready], by simpa [Exchange.isUpdate] using budget⟩ above
  | retry =>
    obtain ⟨cause, calls, earlier, rfl, ⟨ready, budget⟩, above⟩ := h.current rfl
    exact .within rfl ⟨by simp [ready], by simpa [Exchange.isUpdate] using budget⟩ above
  | start | goOn | miss | measure | draw | pause =>
    -- Polling adds calls behind the update and never moves it.
    obtain ⟨cause, calls, earlier, rfl, ⟨sent, stored, hp, hcalls⟩, above⟩ := h.current rfl
    exact .within rfl ⟨sent, stored, hp, hcalls.trans (List.sublist_append_left _ _)⟩ above
  | hit =>
    obtain ⟨cause, calls, earlier, rfl, ⟨sent, stored, hp, hcalls⟩, above⟩ := h.current rfl
    exact .within rfl ⟨sent, stored, _, hp, hcalls.append (List.Sublist.refl _)⟩ above
  | reread =>
    obtain ⟨cause, calls, earlier, rfl, ⟨sent, stored, desired, hp, hcalls⟩, above⟩ :=
      h.current rfl
    exact .within rfl ⟨sent, stored, desired, _, hp, hcalls.append (List.Sublist.refl _)⟩ above
  | finish =>
    obtain ⟨cause, calls, earlier, rfl, ⟨sent, stored, desired, latest, hp, hcalls⟩, above⟩ :=
      h.current rfl
    exact .between (.cons rfl (.inr ⟨⟨cause, rfl⟩, sent, stored, desired, latest, hp,
      hcalls.append (List.Sublist.refl _)⟩) above)
  | unready | reject | rouse | lose | giveUp | cut | wake | vanish | sicken =>
    -- The visit is cut short, and only those above it are known to be complete.
    obtain ⟨cause, calls, earlier, rfl, -, above⟩ := h.current rfl
    exact .ended above

/-- So does a row of calls. -/
theorem moves {es : List Exchange} (hm : Moves policy id s es t) (h : Fits policy id count s vs) :
    Fits policy id count t (es.foldl Visit.note vs) := by
  induction hm generalizing vs with
  | nil => exact h
  | cons head _ ih => exact ih (h.step head)

end Fits

/-! ## What single calls say about a run -/

/-- The ordinals below `n`, highest first. -/
def descending (n : Nat) : List UInt32 :=
  (List.range n).reverse.map UInt32.ofNat

theorem descending_succ (n : Nat) : descending (n + 1) = .ofNat n :: descending n := by
  simp [descending, List.range_succ]

theorem mem_descending {n : Nat} (hn : n ≤ UInt32.size) {q : UInt32} :
    q ∈ descending n ↔ q.toNat < n := by
  simp only [descending, List.mem_map, List.mem_reverse, List.mem_range]
  constructor
  · rintro ⟨k, hk, rfl⟩
    rwa [UInt32.toNat_ofNat_of_lt' (by omega)]
  · intro hq
    exact ⟨q.toNat, hq, UInt32.ofNat_toNat⟩

theorem descending_pairwise {n : Nat} (h : n ≤ UInt32.size) :
    (descending n).Pairwise (· > ·) := by
  induction n with
  | zero => exact .nil
  | succ n ih =>
    rw [descending_succ, List.pairwise_cons]
    refine ⟨?_, ih (Nat.le_of_succ_le h)⟩
    intro q hq
    have hlt := (mem_descending (Nat.le_of_succ_le h)).1 hq
    rw [gt_iff_lt, UInt32.lt_iff_toNat_lt]
    rwa [UInt32.toNat_ofNat_of_lt' h]

/-- The last member of a list that goes down is its least. -/
theorem getLast?_le_of_pairwise {l : List UInt32} (h : l.Pairwise (· > ·)) {q : UInt32}
    (hq : q ∈ l) : ∃ p, l.getLast? = some p ∧ p ≤ q := by
  have hne : l ≠ [] := List.ne_nil_of_mem hq
  refine ⟨l.getLast hne, List.getLast?_eq_some_getLast hne, ?_⟩
  rw [← List.dropLast_concat_getLast hne] at h hq
  rcases List.mem_append.1 hq with hq | hq
  · exact UInt32.le_of_lt ((List.pairwise_append.1 h).2.2 q hq _ (List.mem_singleton_self _))
  · rw [List.mem_singleton.1 hq]
    exact UInt32.le_refl _

/-- The number of ordinals whose pre-check is still to come. -/
def Stage.unchecked : Stage → Nat
  | .between count _ => count
  | .cleared p _ => p + 1
  | .outdated p _ => p
  | .ready p .. => p
  | .refused p .. => p
  | .rested p .. => p
  | .polling _ p _ => p
  | .converged p _ => p
  | .reread p _ => p
  | .ended => 0

/-- Partitions that are still to be made durable are below this one. -/
def Stage.ceiling : Stage → Nat
  | .between count _ => count
  | .cleared p _ => p + 1
  | .outdated p _ => p + 1
  | .ready p .. => p + 1
  | .refused p .. => p + 1
  | .rested p .. => p + 1
  | .polling _ p _ => p
  | .converged p _ => p
  | .reread p _ => p
  | .ended => 0

section

variable {policy : ConflictRetry} {id : WorkloadId} {s t : Stage} {x : Exchange}
  {es : List Exchange}

theorem Move.ended_of_failed (h : Move policy id s x t) (hx : x.Failed) : t = .ended := by
  cases h with
  | conflict he => simp [Exchange.Failed, he] at hx
  | interrupt | unready | reject | rouse | lose | giveUp | cut | wake | vanish | sicken => rfl
  | _ => simp [Exchange.Failed] at hx

/-- A call is a pre-check only if it is that of the highest ordinal left. -/
theorem Move.descending_unchecked (h : Move policy id s x t) (ht : t ≠ .ended) :
    descending s.unchecked = x.precheck?.toList ++ descending t.unchecked := by
  cases h with
  | skip | begin => exact descending_succ _
  | interrupt | unready | reject | rouse | lose | giveUp | cut | wake | vanish | sicken =>
    exact absurd rfl ht
  | _ => rfl

theorem Move.precheck_of_ended (h : Move policy id s x .ended) : x.precheck? = none := by
  cases h <;> rfl

/-- The pre-checks of a row of calls go down from the highest ordinal left without a gap. -/
theorem Moves.prechecks (h : Moves policy id s es t) :
    ∃ rest, descending s.unchecked = es.filterMap Exchange.precheck? ++ rest ∧
      (t ≠ .ended → rest = descending t.unchecked) := by
  induction h with
  | nil => exact ⟨_, rfl, fun _ => rfl⟩
  | @cons s r u x es head tail ih =>
    obtain ⟨rest, hrest, hu⟩ := ih
    by_cases hr : r = .ended
    · -- Nothing follows a step that failed, so what was left unchecked stays so.
      subst hr
      obtain ⟨rfl, rfl⟩ := tail.eq_nil_of_ended
      exact ⟨descending s.unchecked, by simp [head.precheck_of_ended], fun h => absurd rfl h⟩
    · refine ⟨rest, ?_, hu⟩
      rw [head.descending_unchecked hr, hrest]
      cases hx : x.precheck? <;> simp [hx]

/-- A call moves the ceiling only down, and what it makes durable lies between the old ceiling and
the new one. -/
theorem Move.ceiling (h : Move policy id s x t) :
    t.ceiling ≤ s.ceiling ∧
      ∀ q, x.persisted? = some q → ∃ p, q = .ofNat p ∧ t.ceiling ≤ p ∧ p < s.ceiling := by
  cases h with
  | persist =>
    -- The ceiling comes down to the partition with the very call that makes it durable.
    refine ⟨Nat.le_succ _, ?_⟩
    intro q hq
    exact ⟨_, (Option.some.inj hq).symm, Nat.le_refl _, Nat.lt_succ_self _⟩
  | _ => simp [Stage.ceiling, Exchange.persisted?]

/-- The partitions that a row of calls makes durable lie below the ceiling and go strictly down. -/
theorem Moves.persisted_decreasing (h : Moves policy id s es t) (hs : s.ceiling ≤ UInt32.size) :
    (∀ q ∈ es.filterMap Exchange.persisted?, q.toNat < s.ceiling) ∧
      (es.filterMap Exchange.persisted?).Pairwise (· > ·) := by
  induction h with
  | nil => simp
  | @cons s r u x es head tail ih =>
    obtain ⟨hdown, hx⟩ := head.ceiling
    obtain ⟨hbelow, hpairs⟩ := ih (Nat.le_trans hdown hs)
    cases hq : x.persisted? with
    | none =>
      rw [List.filterMap_cons_none hq]
      exact ⟨fun q hq => Nat.lt_of_lt_of_le (hbelow q hq) hdown, hpairs⟩
    | some q =>
      rw [List.filterMap_cons_some hq]
      obtain ⟨p, rfl, hle, hlt⟩ := hx q hq
      have hp : (UInt32.ofNat p).toNat = p := UInt32.toNat_ofNat_of_lt' (Nat.lt_of_lt_of_le hlt hs)
      refine ⟨?_, List.pairwise_cons.2 ⟨?_, hpairs⟩⟩
      · intro q hq
        rcases List.mem_cons.1 hq with rfl | hq
        · rwa [hp]
        · exact Nat.lt_of_lt_of_le (hbelow q hq) hdown
      · intro q hq
        show q.toNat < (UInt32.ofNat p).toNat
        rw [hp]
        exact Nat.lt_of_lt_of_le (hbelow q hq) hle

/-- A poll makes only calls of its own kind up to the first check that succeeds. -/
theorem Moves.poll {phase : PollPhase} {p : Nat} {w : WorkloadSet}
    (h : Moves policy id (.polling phase p w) es t) :
    ((∀ x ∈ es, x.OfPoll) ∧ ∀ latest, t ≠ .between 0 latest) ∨
      ∃ polls rest, es = polls ++ ⟨.check (.ofNat p) w, some (.ok ())⟩ :: rest ∧
        ∀ x ∈ polls, x.OfPoll := by
  induction es generalizing phase with
  | nil =>
    obtain rfl := Moves.nil_iff.1 h
    exact .inl ⟨by simp, by simp⟩
  | cons x es ih =>
    obtain ⟨r, head, tail⟩ := Moves.cons_iff.1 h
    -- A poll goes on, or it succeeds, or it fails.
    have hcase : (x.OfPoll ∧ ∃ phase, r = .polling phase p w) ∨
        x = ⟨.check (.ofNat p) w, some (.ok ())⟩ ∨ (x.OfPoll ∧ r = .ended) := by
      cases head with
      | hit => exact .inr (.inl rfl)
      | giveUp | cut | wake => exact .inr (.inr ⟨trivial, rfl⟩)
      | _ => exact .inl ⟨trivial, _, rfl⟩
    rcases hcase with ⟨hx, phase, rfl⟩ | rfl | ⟨hx, rfl⟩
    · rcases ih tail with ⟨hall, ht⟩ | ⟨polls, rest, rfl, hpolls⟩
      · exact .inl ⟨by simpa [hx] using hall, ht⟩
      · exact .inr ⟨x :: polls, rest, rfl, by simpa [hx] using hpolls⟩
    · exact .inr ⟨[], es, rfl, by simp⟩
    · obtain ⟨rfl, rfl⟩ := tail.eq_nil_of_ended
      exact .inl ⟨by simpa using hx, by simp⟩

end

/-! ## The order of all calls -/

/-- The rollout was reported as completed. -/
def Completed (e : Ending (WorkloadSet × Outcome)) : Prop :=
  ∃ latest o, e = .ok (latest, o) ∧ o.result = .ok ()

/-- What the calls of a rollout have to satisfy. -/
structure InOrder (policy : ConflictRetry) (id : WorkloadId) (replicas : UInt32)
    (es : List Exchange) (e : Ending (WorkloadSet × Outcome)) : Prop where
  /-- Pre-checks go down from the highest ordinal, each made at most once and none left out. -/
  prechecks : es.filterMap Exchange.precheck? <+: descending replicas.toNat
  /-- An update carries the partition of the ordinal that was pre-checked last, which had not
  converged and for which all replicas became ready. Every ordinal above has been handled. -/
  update_allowed : ∀ pre sent reply post, es = pre ++ ⟨.update sent, reply⟩ :: post →
    ∃ v earlier, visits pre = v :: earlier ∧ sent.spec.partition = some v.ordinal ∧ v.Allowed ∧
      ∀ q, v.ordinal < q → q < replicas → ∃ u ∈ earlier, u.ordinal = q ∧ u.Complete id
  /-- Partitions that were made durable go strictly down. -/
  persisted : (es.filterMap Exchange.persisted?).Pairwise (· > ·)
  /-- A step that fails is the last call. -/
  failed : ∀ pre x post, es = pre ++ x :: post → x.Failed → post = [] ∧ ¬ Completed e
  /-- So is a conflict that exhausts the budget of its ordinal. -/
  exhausted : ∀ pre sent cause post v earlier, es = pre ++ ⟨.update sent, .error cause⟩ :: post →
    visits pre = v :: earlier → policy.retries ≤ v.attempts → post = [] ∧ ¬ Completed e
  /-- After an update was made durable, nothing but polling is done until the replica verifies. -/
  polled : ∀ pre sent stored post, es = pre ++ ⟨.update sent, .ok stored⟩ :: post →
    ((∀ x ∈ post, x.OfPoll) ∧ ¬ Completed e) ∨
      ∃ polls p desired rest, sent.spec.partition = some p ∧
        post = polls ++ ⟨.check p desired, some (.ok ())⟩ :: rest ∧ ∀ x ∈ polls, x.OfPoll
  /-- A visit that was not handled to its end is the last one. -/
  earlier_complete : ∀ v ∈ (visits es).tail, v.Complete id
  /-- A rollout that is reported as completed has handled every ordinal. -/
  all_complete : Completed e →
    es.filterMap Exchange.precheck? = descending replicas.toNat ∧ ∀ v ∈ visits es, v.Complete id

section

variable {policy : ConflictRetry} {id : WorkloadId} {replicas : UInt32} {s t : Stage}
  {w sent : WorkloadSet} {x : Exchange} {pre post : List Exchange}

theorem Moves.fits (h : Moves policy id (.between replicas.toNat w) pre s) :
    Fits policy id replicas.toNat s (visits pre) :=
  Fits.moves h (.between .nil)

theorem Move.ready_of_update {reply : Except StoreError WorkloadSet}
    (h : Move policy id s ⟨.update sent, reply⟩ t) :
    ∃ p n w base, s = .ready p w n base ∧ sent = candidate p w base := by
  cases h <;> exact ⟨_, _, _, _, rfl, rfl⟩

theorem Moves.update_allowed {reply : Except StoreError WorkloadSet}
    (h : Moves policy id (.between replicas.toNat w) (pre ++ ⟨.update sent, reply⟩ :: post) t) :
    ∃ v earlier, visits pre = v :: earlier ∧ sent.spec.partition = some v.ordinal ∧ v.Allowed ∧
      ∀ q, v.ordinal < q → q < replicas → ∃ u ∈ earlier, u.ordinal = q ∧ u.Complete id := by
  obtain ⟨r, u, hpre, hx, -⟩ := h.split
  obtain ⟨p, n, w, base, rfl, rfl⟩ := hx.ready_of_update
  obtain ⟨cause, calls, earlier, hv, ⟨ready, -⟩, above⟩ := hpre.fits.current rfl
  refine ⟨_, earlier, hv, rfl, ⟨⟨cause, rfl⟩, ready⟩, ?_⟩
  intro q hlow hhigh
  -- The visits are counted by numbers without a bound, the ordinals are numbers of 32 bits.
  have hp : p < UInt32.size := Nat.lt_of_lt_of_le above.le (Nat.le_of_lt replicas.toNat_lt)
  have hq : p + 1 ≤ q.toNat := by
    have := UInt32.lt_iff_toNat_lt.1 hlow
    rwa [UInt32.toNat_ofNat_of_lt' hp] at this
  obtain ⟨u, hu, hordinal, hcomplete⟩ := above.exists_visit hq (UInt32.lt_iff_toNat_lt.1 hhigh)
  exact ⟨u, hu, by rw [hordinal, UInt32.ofNat_toNat], hcomplete⟩

theorem Moves.failed_last (h : Moves policy id s (pre ++ x :: post) t) (hx : x.Failed) :
    post = [] ∧ t = .ended := by
  obtain ⟨r, u, -, hmove, hpost⟩ := h.split
  rw [hmove.ended_of_failed hx] at hpost
  exact hpost.eq_nil_of_ended

theorem Moves.exhausted_last {cause : StoreError} {v : Visit} {earlier : List Visit}
    (h : Moves policy id (.between replicas.toNat w)
      (pre ++ ⟨.update sent, .error cause⟩ :: post) t)
    (hv : visits pre = v :: earlier) (hspent : policy.retries ≤ v.attempts) :
    post = [] ∧ t = .ended := by
  obtain ⟨r, u, hpre, hx, hpost⟩ := h.split
  cases hx with
  | conflict =>
    -- A conflict is met with retries left, and each attempt has used up one of them.
    obtain ⟨_, calls, _, hcurrent, ⟨-, budget⟩, -⟩ := hpre.fits.current rfl
    obtain ⟨rfl, -⟩ := List.cons.inj (hv.symm.trans hcurrent)
    simp only [Visit.attempts] at hspent
    omega
  | reject => exact hpost.eq_nil_of_ended

theorem Moves.polled {stored : WorkloadSet}
    (h : Moves policy id s (pre ++ ⟨.update sent, .ok stored⟩ :: post) t) :
    ((∀ x ∈ post, x.OfPoll) ∧ ∀ latest, t ≠ .between 0 latest) ∨
      ∃ polls p desired rest, sent.spec.partition = some p ∧
        post = polls ++ ⟨.check p desired, some (.ok ())⟩ :: rest ∧ ∀ x ∈ polls, x.OfPoll := by
  obtain ⟨r, u, -, hx, hpost⟩ := h.split
  cases hx with
  | persist =>
    rcases hpost.poll with hall | ⟨polls, rest, rfl, hpolls⟩
    · exact .inl hall
    · exact .inr ⟨polls, _, _, rest, rfl, rfl, hpolls⟩

theorem Fits.tail_complete {count : Nat} {vs : List Visit} (h : Fits policy id count s vs) :
    ∀ v ∈ vs.tail, v.Complete id := by
  intro v hv
  cases h with
  | between above => exact above.complete_of_mem (List.mem_of_mem_tail hv)
  | cleared above => exact above.complete_of_mem (List.mem_of_mem_tail hv)
  | within _ _ above => exact above.complete_of_mem hv
  | ended above => exact above.complete_of_mem hv

end

/-- **The order of a rollout.** Whatever the store, the verifier, the gates, the clock and the
signal answer, the calls of a run are in order. -/
theorem rollOut_inOrder {retry : ConflictRetry} {jitter : Bool} {rounds : Nat} {timing : Timing}
    {id : WorkloadId} {working : WorkloadSet} {es : List Exchange}
    {e : Ending (WorkloadSet × Outcome)}
    (h : Run ((⟨.external, retry, jitter, rounds⟩ : Strategy).rollOut (.external timing) id working)
      es e) :
    InOrder retry id working.spec.replicas es e := by
  obtain ⟨t, hm, ht⟩ := run_rollOut h
  have hended : Completed e → ∃ latest, t = .between 0 latest := by
    rintro ⟨latest, o, he, ho⟩
    exact ⟨latest, ht latest o he ho⟩
  have hstopped : t = .ended → ¬ Completed e := by
    rintro rfl hc
    obtain ⟨_, h⟩ := hended hc
    cases h
  obtain ⟨rest, hrest, hunchecked⟩ := hm.prechecks
  constructor
  case prechecks => exact ⟨rest, hrest.symm⟩
  case update_allowed =>
    rintro pre sent reply post rfl
    exact hm.update_allowed
  case persisted =>
    exact (hm.persisted_decreasing (Nat.le_of_lt working.spec.replicas.toNat_lt)).2
  case failed =>
    rintro pre x post rfl hx
    obtain ⟨hpost, ht⟩ := hm.failed_last hx
    exact ⟨hpost, hstopped ht⟩
  case exhausted =>
    rintro pre sent cause post v earlier rfl hv hspent
    obtain ⟨hpost, ht⟩ := hm.exhausted_last hv hspent
    exact ⟨hpost, hstopped ht⟩
  case polled =>
    rintro pre sent stored post rfl
    rcases hm.polled with ⟨hall, hne⟩ | hsucceeded
    · refine .inl ⟨hall, ?_⟩
      intro hc
      obtain ⟨latest, ht⟩ := hended hc
      exact hne latest ht
    · exact .inr hsucceeded
  case earlier_complete => exact hm.fits.tail_complete
  case all_complete =>
    intro hc
    obtain ⟨latest, rfl⟩ := hended hc
    have hnone : rest = [] := hunchecked (by simp)
    rw [hnone, List.append_nil] at hrest
    refine ⟨hrest.symm, ?_⟩
    intro v hv
    exact hm.fits.covers_of_between.complete_of_mem hv

/-- Two replicas: the higher one has converged, and the update of the lower one meets a conflict and
is stored at the second attempt. -/
theorem rollOut_inOrder_two_replicas :
    ∃ es, Run ((⟨.external, .standard, false, 3⟩ : Strategy).rollOut (.external .standard)
        ⟨"db", "a"⟩ (.ofSpec ⟨"db", "a"⟩ 2 (.ofImage "v2"))) es
        (.ok (.ofSpec ⟨"db", "a"⟩ 2 (.ofImage "v2"), .completed false)) ∧
      InOrder .standard ⟨"db", "a"⟩ 2 es
        (.ok (.ofSpec ⟨"db", "a"⟩ 2 (.ofImage "v2"), .completed false)) := by
  let w : WorkloadSet := .ofSpec ⟨"db", "a"⟩ 2 (.ofImage "v2")
  obtain ⟨es, hrun⟩ : ∃ es, Run ((⟨.external, .standard, false, 3⟩ : Strategy).rollOut
      (.external .standard) ⟨"db", "a"⟩ w) es (.ok (w, .completed false)) := by
    apply Exists.intro
    apply Run.ask false
    apply Run.ask (Except.ok ())
    apply Run.ask false
    apply Run.ask (Except.error (Failure.plain "not updated"))
    apply Run.ask (Except.ok ())
    apply Run.ask (Except.error (StoreError.conflict "db/a" 0 1))
    apply Run.ask false
    apply Run.ask (Except.ok w)
    apply Run.ask (Except.ok w)
    apply Run.ask TimeSpan.zero
    apply Run.ask false
    apply Run.ask (some (Except.ok ()))
    apply Run.ask (Except.ok w)
    apply Run.ask (Except.ok ())
    apply Run.done
  exact ⟨es, hrun, rollOut_inOrder hrun⟩

end PartitionedRollout
