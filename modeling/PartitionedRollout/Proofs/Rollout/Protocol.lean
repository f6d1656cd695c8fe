/-
# PartitionedRollout.Proofs.Rollout.Protocol -- the calls of a rollout as a transition system

The strategy is written as a program that branches on replies. Here the same behaviour is given
as stages and moves: a stage says where a rollout stands between two calls, and a move is one
call with its reply. `run_rollOut` shows that the calls of every run are moves, whatever the
store, the verifier, the gates, the clock and the signal answer. Statements about the order of
calls, or about any moment of a run, are then inductions over moves and never open the program.

The verifier and the gates are those outside the library, so each of their calls is a single
exchange with an arbitrary reply.
-/

import PartitionedRollout.Proofs.Rollout.Attempts
import PartitionedRollout.Rollout.Controller

namespace PartitionedRollout

open Program

/-! ## Stages and moves -/

/-- The next call of a poll. A round asks for the signal, the check, the clock, perhaps for a draw,
and for a wait. -/
inductive PollPhase where
  /-- The clock, before the first round. -/
  | opening
  /-- The signal. -/
  | signal
  /-- The check. -/
  | check
  /-- The clock, after a failed check. -/
  | clock
  /-- A draw or a wait. -/
  | spacing
  /-- A wait, of a length that was drawn. -/
  | pause
  deriving DecidableEq

/-- Where a rollout stands between two calls. Ordinals above `p` are done with, and `working` is the
working copy. -/
inductive Stage where
  /-- The `count` lowest ordinals are left; the signal is next, if there are any. -/
  | between (count : Nat) (working : WorkloadSet)
  /-- The signal did not tell to stop; the pre-check of `p` is next. -/
  | cleared (p : Nat) (working : WorkloadSet)
  /-- The pre-check of `p` failed; the readiness of all replicas is next. -/
  | outdated (p : Nat) (working : WorkloadSet)
  /-- All replicas are ready, and an update made on `base` is next. -/
  | ready (p : Nat) (working : WorkloadSet) (retries : Nat) (base : WorkloadSet)
  /-- The update met a conflict; a wait is next. -/
  | refused (p : Nat) (working : WorkloadSet) (retries : Nat)
  /-- The wait is over; the latest version of the set is next. -/
  | rested (p : Nat) (working : WorkloadSet) (retries : Nat)
  /-- The update is stored and `p` is polled. -/
  | polling (phase : PollPhase) (p : Nat) (working : WorkloadSet)
  /-- A check of `p` succeeded; the set is read anew next. -/
  | converged (p : Nat) (working : WorkloadSet)
  /-- The set was read anew; the health of the cluster is next. -/
  | reread (p : Nat) (working : WorkloadSet)
  /-- A step failed. -/
  | ended

/-- What is sent to the store for ordinal `p`: a version of the set with the template of the working
copy and the partition at `p`. -/
def candidate (p : Nat) (working base : WorkloadSet) : WorkloadSet :=
  (base.withTemplate working.spec.template).withPartition (.ofNat p)

/-- One call of a rollout, with its reply. -/
inductive Move (policy : ConflictRetry) (id : WorkloadId) : Stage → Exchange → Stage → Prop where
  | proceed {p : Nat} {w : WorkloadSet} :
      Move policy id (.between (p + 1) w) ⟨.stopping, false⟩ (.cleared p w)
  | interrupt {p : Nat} {w : WorkloadSet} :
      Move policy id (.between (p + 1) w) ⟨.stopping, true⟩ .ended
  | skip {p : Nat} {w : WorkloadSet} :
      Move policy id (.cleared p w) ⟨.verify (.ofNat p) w, .ok ()⟩ (.between p w)
  | begin {p : Nat} {w : WorkloadSet} {cause : Failure} :
      Move policy id (.cleared p w) ⟨.verify (.ofNat p) w, .error cause⟩ (.outdated p w)
  | allow {p : Nat} {w : WorkloadSet} :
      Move policy id (.outdated p w) ⟨.awaitReady, .ok ()⟩
        (.ready p (w.withPartition (.ofNat p)) policy.retries (w.withPartition (.ofNat p)))
  | unready {p : Nat} {w : WorkloadSet} {cause : Failure} :
      Move policy id (.outdated p w) ⟨.awaitReady, .error cause⟩ .ended
  | persist {p n : Nat} {w base stored : WorkloadSet} :
      Move policy id (.ready p w n base) ⟨.update (candidate p w base), .ok stored⟩
        (.polling .opening p w)
  | conflict {p n : Nat} {w base : WorkloadSet} {e : StoreError} (h : e.isConflict = true) :
      Move policy id (.ready p w (n + 1) base) ⟨.update (candidate p w base), .error e⟩
        (.refused p w n)
  | reject {p n : Nat} {w base : WorkloadSet} {e : StoreError}
      (h : n = 0 ∨ e.isConflict = false) :
      Move policy id (.ready p w n base) ⟨.update (candidate p w base), .error e⟩ .ended
  | rest {p n : Nat} {w : WorkloadSet} :
      Move policy id (.refused p w n) ⟨.sleep policy.interval, false⟩ (.rested p w n)
  | rouse {p n : Nat} {w : WorkloadSet} :
      Move policy id (.refused p w n) ⟨.sleep policy.interval, true⟩ .ended
  | retry {p n : Nat} {w latest : WorkloadSet} :
      Move policy id (.rested p w n) ⟨.get id, .ok latest⟩ (.ready p w n latest)
  | lose {p n : Nat} {w : WorkloadSet} {e : StoreError} :
      Move policy id (.rested p w n) ⟨.get id, .error e⟩ .ended
  | start {p : Nat} {w : WorkloadSet} {d : TimeSpan} :
      Move policy id (.polling .opening p w) ⟨.now, d⟩ (.polling .signal p w)
  | goOn {p : Nat} {w : WorkloadSet} :
      Move policy id (.polling .signal p w) ⟨.stopping, false⟩ (.polling .check p w)
  | giveUp {p : Nat} {w : WorkloadSet} :
      Move policy id (.polling .signal p w) ⟨.stopping, true⟩ .ended
  | hit {p : Nat} {w : WorkloadSet} :
      Move policy id (.polling .check p w) ⟨.check (.ofNat p) w, some (.ok ())⟩ (.converged p w)
  | miss {p : Nat} {w : WorkloadSet} {cause : Failure} :
      Move policy id (.polling .check p w) ⟨.check (.ofNat p) w, some (.error cause)⟩
        (.polling .clock p w)
  | cut {p : Nat} {w : WorkloadSet} :
      Move policy id (.polling .check p w) ⟨.check (.ofNat p) w, none⟩ .ended
  | measure {p : Nat} {w : WorkloadSet} {d : TimeSpan} :
      Move policy id (.polling .clock p w) ⟨.now, d⟩ (.polling .spacing p w)
  | draw {p : Nat} {w : WorkloadSet} {d : TimeSpan} {f : Binary64} {x : Option TimeSpan} :
      Move policy id (.polling .spacing p w) ⟨.draw d f, x⟩ (.polling .pause p w)
  | pause {p : Nat} {w : WorkloadSet} {phase : PollPhase} {d : TimeSpan}
      (h : phase = .spacing ∨ phase = .pause) :
      Move policy id (.polling phase p w) ⟨.sleep d, false⟩ (.polling .signal p w)
  | wake {p : Nat} {w : WorkloadSet} {phase : PollPhase} {d : TimeSpan}
      (h : phase = .spacing ∨ phase = .pause) :
      Move policy id (.polling phase p w) ⟨.sleep d, true⟩ .ended
  | reread {p : Nat} {w latest : WorkloadSet} :
      Move policy id (.converged p w) ⟨.get id, .ok latest⟩ (.reread p latest)
  | vanish {p : Nat} {w : WorkloadSet} {e : StoreError} :
      Move policy id (.converged p w) ⟨.get id, .error e⟩ .ended
  | finish {p : Nat} {w : WorkloadSet} :
      Move policy id (.reread p w)
        ⟨.probeHealth (Strategy.checkpoint id) (.ofNat p), .ok ()⟩ (.between p w)
  | sicken {p : Nat} {w : WorkloadSet} {cause : Failure} :
      Move policy id (.reread p w)
        ⟨.probeHealth (Strategy.checkpoint id) (.ofNat p), .error cause⟩ .ended

/-- Calls in a row. -/
inductive Moves (policy : ConflictRetry) (id : WorkloadId) :
    Stage → List Exchange → Stage → Prop where
  | nil {s : Stage} : Moves policy id s [] s
  | cons {s t u : Stage} {x : Exchange} {es : List Exchange} (head : Move policy id s x t)
      (tail : Moves policy id t es u) : Moves policy id s (x :: es) u

namespace Moves

variable {policy : ConflictRetry} {id : WorkloadId} {s t u : Stage} {es fs : List Exchange}

@[simp]
theorem nil_iff : Moves policy id s [] u ↔ u = s := by
  constructor
  · rintro ⟨⟩
    rfl
  · rintro rfl
    exact .nil

theorem cons_iff {x : Exchange} :
    Moves policy id s (x :: es) u ↔ ∃ t, Move policy id s x t ∧ Moves policy id t es u := by
  constructor
  · rintro ⟨⟩
    exact ⟨_, by assumption, by assumption⟩
  · rintro ⟨t, h, hs⟩
    exact .cons h hs

theorem append (h : Moves policy id s es t) (h' : Moves policy id t fs u) :
    Moves policy id s (es ++ fs) u := by
  induction h with
  | nil => exact h'
  | cons head _ ih => exact .cons head (ih h')

/-- A row of calls passes through a stage at every point. -/
theorem append_iff :
    Moves policy id s (es ++ fs) u ↔ ∃ t, Moves policy id s es t ∧ Moves policy id t fs u := by
  constructor
  · intro h
    induction es generalizing s with
    | nil => exact ⟨s, .nil, h⟩
    | cons x es ih =>
      obtain ⟨r, hx, h⟩ := cons_iff.1 h
      obtain ⟨t, h₁, h₂⟩ := ih h
      exact ⟨t, .cons hx h₁, h₂⟩
  · rintro ⟨t, h₁, h₂⟩
    exact h₁.append h₂

/-- A row of calls splits around any of them. -/
theorem split {x : Exchange} (h : Moves policy id s (es ++ x :: fs) u) :
    ∃ r t, Moves policy id s es r ∧ Move policy id r x t ∧ Moves policy id t fs u := by
  obtain ⟨r, hpre, h⟩ := append_iff.1 h
  obtain ⟨t, hx, hpost⟩ := cons_iff.1 h
  exact ⟨r, t, hpre, hx, hpost⟩

/-- After a failed step there is no further call. -/
theorem eq_nil_of_ended (h : Moves policy id .ended es u) : es = [] ∧ u = .ended := by
  cases h with
  | nil => exact ⟨rfl, rfl⟩
  | cons head _ => cases head

/-- What has not ended had not ended before. -/
theorem ne_ended (h : Moves policy id s es u) (hu : u ≠ .ended) : s ≠ .ended := by
  rintro rfl
  exact hu h.eq_nil_of_ended.2

end Moves

/-! ## Programs that follow the protocol -/

/-- From a stage on, every run of a program is a row of moves, and `post` says at which stage it is
when it ends in a value. -/
def Guided (policy : ConflictRetry) (id : WorkloadId) {α : Type} (s : Stage) (m : Program α)
    (post : α → Stage → Prop) : Prop :=
  ∀ es e, Run m es e → ∃ t, Moves policy id s es t ∧ ∀ a, e = .ok a → post a t

namespace Guided

variable {policy : ConflictRetry} {id : WorkloadId} {α β : Type} {s : Stage}
  {post : β → Stage → Prop}

theorem done {b : β} (h : post b s) : Guided policy id s (.done b) post := by
  intro es e hrun
  obtain ⟨rfl, rfl⟩ := run_done_iff.1 hrun
  refine ⟨s, .nil, ?_⟩
  intro a ha
  obtain rfl := Except.ok.inj ha
  exact h

theorem halt {h : Halt} : Guided policy id s (.halt h) post := by
  intro es e hrun
  obtain ⟨rfl, rfl⟩ := run_halt_iff.1 hrun
  exact ⟨s, .nil, by simp⟩

/-- A call has to be a move for every reply. -/
theorem call {r : Request} {f : r.Reply → Program β}
    (h : ∀ x, ∃ t, Move policy id s ⟨r, x⟩ t ∧ Guided policy id t (f x) post) :
    Guided policy id s (.call r >>= f) post := by
  intro es e hrun
  obtain ⟨x, rest, rfl, hrest⟩ := run_call_bind_iff.1 hrun
  obtain ⟨t, hmove, hguided⟩ := h x
  obtain ⟨u, hmoves, hpost⟩ := hguided rest e hrest
  exact ⟨u, .cons hmove hmoves, hpost⟩

theorem bind {m : Program α} {f : α → Program β} {mid : α → Stage → Prop}
    (hm : Guided policy id s m mid) (hf : ∀ a t, mid a t → Guided policy id t (f a) post) :
    Guided policy id s (m >>= f) post := by
  intro es e hrun
  rcases run_bind_iff.1 hrun with ⟨a, es₁, es₂, rfl, hfirst, hsecond⟩ | ⟨h, rfl, hfirst⟩
  · obtain ⟨t, hmoves, hmid⟩ := hm es₁ _ hfirst
    obtain ⟨u, hrest, hpost⟩ := hf a t (hmid a rfl) es₂ e hsecond
    exact ⟨u, hmoves.append hrest, hpost⟩
  · obtain ⟨t, hmoves, -⟩ := hm es _ hfirst
    exact ⟨t, hmoves, by simp⟩

theorem ofOption {o : Option α} {f : α → Program β}
    (h : ∀ a, o = some a → Guided policy id s (f a) post) :
    Guided policy id s (.ofOption o >>= f) post := by
  cases o with
  | none => exact halt
  | some a => exact h a rfl

end Guided

section

variable {policy : ConflictRetry} {id : WorkloadId}

theorem guided_updateWithin {p n : Nat} {w base : WorkloadSet} :
    Guided policy id (.ready p w n base)
      (updateWithin id (.ofNat p) policy.interval (·.withTemplate w.spec.template) n
        (candidate p w base))
      fun r t => ∀ stored, r = .ok stored → t = .polling .opening p w := by
  induction n generalizing base with
  | zero =>
    rw [updateWithin]
    refine .call ?_
    rintro (cause | stored)
    · exact ⟨_, .reject (.inl rfl), .done (by simp)⟩
    · exact ⟨_, .persist, .done (fun _ _ => rfl)⟩
  | succ n ih =>
    rw [updateWithin]
    refine .call ?_
    rintro (cause | stored)
    · cases hc : cause.isConflict with
      | false =>
        refine ⟨_, .reject (.inr hc), ?_⟩
        simp only [hc, Bool.not_false, if_true]
        exact .done (by simp)
      | true =>
        refine ⟨_, .conflict hc, ?_⟩
        simp only [hc, Bool.not_true, Bool.false_eq_true, if_false]
        refine .call ?_
        rintro (_ | _)
        · refine ⟨_, .rest, .call ?_⟩
          rintro (cause | latest)
          · exact ⟨_, .lose, .done (by simp)⟩
          · exact ⟨_, .retry, ih⟩
        · exact ⟨_, .rouse, .done (by simp)⟩
    · exact ⟨_, .persist, .done (fun _ _ => rfl)⟩

theorem guided_wait {b : Backoff} {interval : TimeSpan} {p : Nat} {w : WorkloadSet} :
    Guided policy id (.polling .spacing p w) (b.wait interval)
      fun _ t => ∃ phase, (phase = .spacing ∨ phase = .pause) ∧ t = .polling phase p w := by
  unfold Backoff.wait
  split
  · exact .done ⟨_, .inl rfl, rfl⟩
  split
  · exact .halt
  split
  · refine .call ?_
    intro drawn
    exact ⟨_, .draw, .ofOption fun _ _ => .done ⟨_, .inr rfl, rfl⟩⟩
  · exact .done ⟨_, .inl rfl, rfl⟩

theorem guided_pollFrom {b : Backoff} {p rounds : Nat} {w : WorkloadSet}
    {start interval : TimeSpan} {attempts : UInt32} :
    Guided policy id (.polling .signal p w)
      (pollFrom b (.call (.check (.ofNat p) w)) start rounds interval attempts)
      fun r t => ∀ n, r = .ok n → t = .converged p w := by
  induction rounds generalizing interval attempts with
  | zero => exact .halt
  | succ rounds ih =>
    rw [pollFrom]
    refine .call ?_
    rintro (_ | _)
    · refine ⟨_, .goOn, .call ?_⟩
      rintro (_ | cause | _)
      · exact ⟨_, .cut, .done (by simp)⟩
      · -- A failed check: the poll gives up, or waits and makes another round.
        refine ⟨_, .miss, .call fun now => ⟨_, .measure, .bind guided_wait ?_⟩⟩
        rintro wait t ⟨phase, hphase, rfl⟩
        refine .ofOption ?_
        intro reach _
        split
        · exact .done (by simp)
        refine .call ?_
        rintro (_ | _)
        · exact ⟨_, .pause hphase, .ofOption fun _ _ => ih⟩
        · exact ⟨_, .wake hphase, .done (by simp)⟩
      · exact ⟨_, .hit, .done (fun _ _ => rfl)⟩
    · exact ⟨_, .giveUp, .done (by simp)⟩

theorem guided_poll {b : Backoff} {p rounds : Nat} {w : WorkloadSet} :
    Guided policy id (.polling .opening p w) (poll rounds b (.call (.check (.ofNat p) w)))
      fun r t => ∀ n, r = .ok n → t = .converged p w :=
  .call fun _ => ⟨_, .start, guided_pollFrom⟩

/-- An ordinal that was updated lies behind, and the working copy is the one that came back. -/
theorem guided_updateOrdinal {s : Strategy} {timing : Timing} {p : Nat} {w : WorkloadSet}
    (hs : s.verifier = .external) :
    Guided s.retry id (.outdated p w) (s.updateOrdinal (.external timing) id w (.ofNat p))
      fun r t => r.2 = .ok () → t = .between p r.1 := by
  rw [Strategy.updateOrdinal]
  refine .call ?_
  rintro (cause | _)
  · exact ⟨_, .unready, .done (by simp)⟩
  -- From here on the working copy carries the partition, in the update as in the poll.
  refine ⟨_, .allow, .bind (guided_updateWithin (w := w.withPartition (.ofNat p))) ?_⟩
  rintro (cause | stored) t ht
  · exact .done (by simp)
  obtain rfl := ht stored rfl
  rw [hs]
  refine .bind guided_poll ?_
  rintro (⟨⟨attempts, elapsed, last⟩ | attempts⟩ | n) t ht
  · exact .done (by simp)
  · exact .done (by simp)
  obtain rfl := ht n rfl
  refine .call ?_
  rintro (cause | latest)
  · exact ⟨_, .vanish, .done (by simp)⟩
  refine ⟨_, .reread, .call ?_⟩
  rintro (cause | _)
  · exact ⟨_, .sicken, .done (by simp)⟩
  · exact ⟨_, .finish, .done (fun _ => rfl)⟩

/-- A walk over the `count` lowest ordinals that is reported as completed has reached the end of
them. -/
theorem guided_walk {s : Strategy} {timing : Timing} {count : Nat} {w : WorkloadSet}
    {skipped : Bool} (hs : s.verifier = .external) :
    Guided s.retry id (.between count w) (s.walk (.external timing) id count w skipped)
      fun r t => r.2.result = .ok () → t = .between 0 r.1 := by
  induction count generalizing w skipped with
  | zero =>
    rw [Strategy.walk]
    exact .done (fun _ => rfl)
  | succ count ih =>
    rw [Strategy.walk]
    refine .call ?_
    rintro (_ | _)
    · refine ⟨_, .proceed, ?_⟩
      rw [hs]
      refine .call ?_
      rintro (cause | _)
      · refine ⟨_, .begin, .bind (guided_updateOrdinal hs) ?_⟩
        rintro ⟨latest, cause | _⟩ t ht
        · exact .done (by simp [Outcome.failed])
        · obtain rfl := ht rfl
          exact ih
      · exact ⟨_, .skip, ih⟩
    · exact ⟨_, .interrupt, .done (by simp [Outcome.failed])⟩

/-- **The protocol.** Every run of a rollout is a row of moves from its first ordinal on, and it
reaches the end of the last one if it is reported as completed. -/
theorem run_rollOut {retry : ConflictRetry} {jitter : Bool} {rounds : Nat} {timing : Timing}
    {working : WorkloadSet} {es : List Exchange} {e : Ending (WorkloadSet × Outcome)}
    (h : Run ((⟨.external, retry, jitter, rounds⟩ : Strategy).rollOut (.external timing) id working)
      es e) :
    ∃ t, Moves retry id (.between working.spec.replicas.toNat working) es t ∧
      ∀ latest o, e = .ok (latest, o) → o.result = .ok () → t = .between 0 latest := by
  obtain ⟨t, hm, ht⟩ := guided_walk rfl es e h
  refine ⟨t, hm, ?_⟩
  rintro latest o rfl ho
  exact ht _ rfl ho

/-- What is reported of a rollout, its error as one of the strategy. -/
def Outcome.inStrategy (o : Outcome) (id : WorkloadId) : Outcome :=
  ⟨o.skipSleep, o.result.mapError (·.inStrategy id)⟩

/-- A completed rollout is reported as such, and no other one is. -/
theorem map_inStrategy_eq_completed {ending : Ending (WorkloadSet × Outcome)} {skipped : Bool} :
    ending.map (fun walked => walked.2.inStrategy id) = .ok (.completed skipped) ↔
      ∃ latest, ending = .ok (latest, .completed skipped) := by
  constructor
  · intro h
    obtain halt | ⟨latest, last, result⟩ := ending
    · cases h
    · cases result with
      | error cause => cases h
      | ok _ =>
        cases h
        exact ⟨latest, rfl⟩
  · rintro ⟨latest, rfl⟩
    rfl

/-- So is a failed one, with its error. -/
theorem map_inStrategy_eq_failed {ending : Ending (WorkloadSet × Outcome)} {skipped : Bool}
    {cause : RolloutError} :
    ending.map (fun walked => walked.2.inStrategy id) = .ok (.failed skipped cause) ↔
      ∃ latest source, ending = .ok (latest, .failed skipped source) ∧
        cause = source.inStrategy id := by
  constructor
  · intro h
    obtain halt | ⟨latest, last, result⟩ := ending
    · cases h
    · cases result with
      | ok _ => cases h
      | error source =>
        cases h
        exact ⟨latest, source, rfl, rfl⟩
  · rintro ⟨latest, source, rfl, rfl⟩
    rfl

/-- A run of a suite reads the set, computes the desired one and rolls that out; what the rollout
reports is passed on. -/
theorem run_rollOutSuite {g : Gates} {strategy : Strategy} {es : List Exchange} {e : Ending Outcome}
    (h : Run (rollOutSuite g ⟨externalTransform, strategy⟩ id) es e) :
    (∃ cause, es = [⟨.get id, .error cause⟩] ∧ e = .ok (.failed false (.ofStore id cause))) ∨
      (∃ current cause, es = [⟨.get id, .ok current⟩, ⟨.transform current, .error cause⟩] ∧
        e = .ok (.failed false (.transform id cause))) ∨
      ∃ current desired rest ending,
        es = ⟨.get id, .ok current⟩ :: ⟨.transform current, .ok desired⟩ :: rest ∧
        Run (strategy.rollOut g id desired) rest ending ∧
        e = ending.map fun walked => walked.2.inStrategy id := by
  rw [rollOutSuite, run_call_bind_iff] at h
  obtain ⟨reply, rest, rfl, h⟩ := h
  cases reply with
  | error cause =>
    obtain ⟨rfl, rfl⟩ := run_done_iff.1 h
    exact .inl ⟨cause, rfl, rfl⟩
  | ok current =>
    simp only [externalTransform] at h
    rw [run_call_bind_iff] at h
    obtain ⟨reply, rest, rfl, h⟩ := h
    cases reply with
    | error cause =>
      obtain ⟨rfl, rfl⟩ := run_done_iff.1 h
      exact .inr (.inl ⟨current, cause, rfl, rfl⟩)
    | ok desired =>
      refine .inr (.inr ⟨current, desired, ?_⟩)
      rw [run_bind_iff] at h
      rcases h with ⟨⟨latest, skipped, result⟩, es₁, es₂, rfl, hr, h⟩ | ⟨halt, rfl, hr⟩
      · cases result <;>
        · obtain ⟨rfl, rfl⟩ := run_done_iff.1 h
          exact ⟨es₁, _, by simp, hr, rfl⟩
      · exact ⟨rest, _, rfl, hr, rfl⟩

end

end PartitionedRollout
