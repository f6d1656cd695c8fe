/-
# PartitionedRollout.Proofs.Rollout.Watchful -- programs that watch the shutdown signal

A rollout with the gates of this library looks at the shutdown signal in several places: itself
before an ordinal and between two checks, and inside of both gates. `Watchful` says of a program
what makes it stop: it notices the signal with its last exchange or not at all, and it runs out of
rounds only after as many waits. Both properties hold of the gates and the verifier, which moreover
only look on, and they are put together to those of the rollout.
-/

import PartitionedRollout.Health.ClusterProbe
import PartitionedRollout.Health.Readiness
import PartitionedRollout.Proofs.Rollout.Run
import PartitionedRollout.Rollout.Controller

namespace PartitionedRollout

open Program

/-! ## Requests and exchanges -/

/-- The request changes nothing that others can see. -/
def Request.LooksOn : Request → Prop
  | .get _ => True
  | .stopping => True
  | .sleep _ => True
  | .now => True
  | .fetch _ _ => True
  | _ => False

/-- The answer to the request depends on the shutdown signal. -/
def Request.heeds : Request → Bool
  | .stopping => true
  | .sleep _ => true
  | _ => false

namespace Program

/-- The exchange noticed the shutdown signal. -/
def Exchange.Noticed : Exchange → Prop
  | ⟨.stopping, stopped⟩ => stopped = true
  | ⟨.sleep _, stopped⟩ => stopped = true
  | _ => False

/-- The exchange is a wait that was not cut short. -/
def Exchange.waited : Exchange → Bool
  | ⟨.sleep _, stopped⟩ => !stopped
  | _ => false

/-- No exchange noticed the signal. -/
def Unnoticed (es : List Exchange) : Prop :=
  ∀ x ∈ es, ¬ x.Noticed

theorem Exchange.not_noticed {r : Request} (hr : r.heeds = false) (x : r.Reply) :
    ¬ Exchange.Noticed ⟨r, x⟩ := by
  cases r <;> first | exact fun h => h | cases hr

variable {α β : Type} {P : Request → Prop} {n : Nat}

/-- What is known of a run of a program that watches the signal. -/
structure Watched (P : Request → Prop) (n : Nat) (post : α → Prop) (es : List Exchange)
    (e : Ending α) : Prop where
  /-- Its calls are of a kind. -/
  calls : ∀ x ∈ es, P x.request
  /-- It notices the signal with its last exchange, or not at all. If it does, it ends in a value
  that `post` allows. -/
  noticed : Unnoticed es ∨
    ∃ pre x a, es = pre ++ [x] ∧ Unnoticed pre ∧ x.Noticed ∧ e = .ok a ∧ post a
  /-- It runs out of rounds only after so many waits. -/
  waits : e = .error .exhausted → n ≤ es.countP Exchange.waited

namespace Watched

variable {post : β → Prop} {es : List Exchange} {e : Ending β}

theorem nil (he : e ≠ .error .exhausted) : Watched P n post [] e :=
  ⟨by simp, .inl (by simp [Unnoticed]), fun h => absurd h he⟩

/-- A call in front that did not notice the signal. -/
theorem cons {x : Exchange} (hP : P x.request) (hx : ¬ x.Noticed) (h : Watched P n post es e) :
    Watched P (n + if x.waited then 1 else 0) post (x :: es) e := by
  obtain ⟨hcalls, hnoticed, hwaits⟩ := h
  refine ⟨List.forall_mem_cons.2 ⟨hP, hcalls⟩, ?_, ?_⟩
  · rcases hnoticed with hnone | ⟨pre, y, a, rfl, hpre, hy, he, ha⟩
    · exact .inl (List.forall_mem_cons.2 ⟨hx, hnone⟩)
    · exact .inr ⟨x :: pre, y, a, rfl, List.forall_mem_cons.2 ⟨hx, hpre⟩, hy, he, ha⟩
  · intro he
    rw [List.countP_cons]
    exact Nat.add_le_add_right (hwaits he) _

/-- A call that noticed the signal. -/
theorem cut {x : Exchange} {b : β} (hP : P x.request) (hx : x.Noticed) (hb : post b) :
    Watched P n post [x] (.ok b) :=
  ⟨by simpa using hP, .inr ⟨[], x, b, rfl, by simp [Unnoticed], hx, rfl, hb⟩, by simp⟩

/-- An exchange that noticed the signal is the last one of the run, and the run ends in a value. -/
theorem last {pre rest : List Exchange} {x : Exchange} (h : Watched P n post (pre ++ x :: rest) e)
    (hx : x.Noticed) : rest = [] ∧ ∃ b, e = .ok b ∧ post b := by
  rcases h.noticed with hnone | ⟨front, y, b, hes, hfront, -, he, hb⟩
  · exact absurd hx (hnone x (by simp))
  refine ⟨?_, b, he, hb⟩
  rcases List.eq_nil_or_concat rest with rfl | ⟨rest, z, rfl⟩
  · rfl
  · rw [List.concat_eq_append, ← List.cons_append, ← List.append_assoc] at hes
    obtain ⟨rfl, -⟩ := List.append_inj' hes rfl
    exact absurd hx (hfront x (by simp))

theorem of_le {m : Nat} (h : Watched P m post es e) (hn : n ≤ m) : Watched P n post es e :=
  ⟨h.calls, h.noticed, fun he => Nat.le_trans hn (h.waits he)⟩

end Watched

/-- A program that watches the signal. -/
def Watchful (P : Request → Prop) (n : Nat) (m : Program α) (post : α → Prop) : Prop :=
  ∀ es e, Run m es e → Watched P n post es e

namespace Watchful

variable {post : β → Prop}

theorem done {b : β} : Watchful P n (.done b) post := by
  intro es e hrun
  obtain ⟨rfl, rfl⟩ := run_done_iff.1 hrun
  exact .nil (by simp)

theorem overflow : Watchful P n (.halt .overflow : Program β) post := by
  intro es e hrun
  obtain ⟨rfl, rfl⟩ := run_halt_iff.1 hrun
  exact .nil (by simp)

/-- A loop that has no rounds left. -/
theorem exhausted : Watchful P 0 (.halt .exhausted : Program β) post := by
  intro es e hrun
  obtain ⟨rfl, rfl⟩ := run_halt_iff.1 hrun
  exact ⟨by simp, .inl (by simp [Unnoticed]), fun _ => Nat.zero_le _⟩

theorem mono {m : Program β} {Q : Request → Prop} {weaker : β → Prop} (h : Watchful P n m post)
    (hcalls : ∀ r, P r → Q r) (hpost : ∀ b, post b → weaker b) : Watchful Q n m weaker := by
  intro es e hrun
  obtain ⟨hes, hnoticed, hwaits⟩ := h es e hrun
  refine ⟨fun x hx => hcalls _ (hes x hx), ?_, hwaits⟩
  rcases hnoticed with hnone | ⟨pre, x, a, hes, hpre, hx, he, ha⟩
  · exact .inl hnone
  · exact .inr ⟨pre, x, a, hes, hpre, hx, he, hpost a ha⟩

/-- A call that is no look and no wait. -/
theorem call {r : Request} {f : r.Reply → Program β} (hP : P r) (hr : r.heeds = false)
    (hf : ∀ x, Watchful P n (f x) post) : Watchful P n (.call r >>= f) post := by
  intro es e hrun
  obtain ⟨x, rest, rfl, hrest⟩ := run_call_bind_iff.1 hrun
  exact ((hf x rest e hrest).cons hP (Exchange.not_noticed hr x)).of_le (Nat.le_add_right _ _)

/-- A look at the signal. -/
theorem look {f : Bool → Program β} (hP : P .stopping) (hf : Watchful P n (f false) post)
    (hcut : ∃ b, f true = .done b ∧ post b) : Watchful P n (.call .stopping >>= f) post := by
  intro es e hrun
  obtain ⟨x, rest, rfl, hrest⟩ := run_call_bind_iff.1 hrun
  cases x with
  | false => exact (hf rest e hrest).cons (x := ⟨.stopping, false⟩) hP (by simp [Exchange.Noticed])
  | true =>
    obtain ⟨b, hdone, hb⟩ := hcut
    obtain ⟨rfl, rfl⟩ := run_done_iff.1 (hdone ▸ hrest)
    exact .cut hP rfl hb

/-- A wait at the end of a round. -/
theorem wait {d : TimeSpan} {f : Bool → Program β} (hP : P (.sleep d))
    (hf : Watchful P n (f false) post) (hcut : ∃ b, f true = .done b ∧ post b) :
    Watchful P (n + 1) (.call (.sleep d) >>= f) post := by
  intro es e hrun
  obtain ⟨x, rest, rfl, hrest⟩ := run_call_bind_iff.1 hrun
  cases x with
  | false => exact (hf rest e hrest).cons (x := ⟨.sleep d, false⟩) hP (by simp [Exchange.Noticed])
  | true =>
    obtain ⟨b, hdone, hb⟩ := hcut
    obtain ⟨rfl, rfl⟩ := run_done_iff.1 (hdone ▸ hrest)
    exact .cut hP rfl hb

/-- A wait that belongs to no round. -/
theorem delay {d : TimeSpan} {f : Bool → Program β} (hP : P (.sleep d))
    (hf : Watchful P n (f false) post) (hcut : ∃ b, f true = .done b ∧ post b) :
    Watchful P n (.call (.sleep d) >>= f) post :=
  fun es e hrun => (wait hP hf hcut es e hrun).of_le (Nat.le_succ n)

/-- What has noticed the signal is passed on without a further call. -/
theorem bind {m : Program α} {f : α → Program β}
    (hm : Watchful P n m fun a => ∃ b, f a = .done b ∧ post b)
    (hf : ∀ a, Watchful P n (f a) post) : Watchful P n (m >>= f) post := by
  intro es e hrun
  rcases run_bind_iff.1 hrun with ⟨a, es₁, es₂, rfl, hfirst, hsecond⟩ | ⟨h, rfl, hfirst⟩
  · obtain ⟨hcalls, hnoticed, -⟩ := hm es₁ _ hfirst
    obtain ⟨hcalls', hnoticed', hwaits⟩ := hf a es₂ e hsecond
    refine ⟨List.forall_mem_append.2 ⟨hcalls, hcalls'⟩, ?_, ?_⟩
    · rcases hnoticed with hnone | ⟨pre, x, a', rfl, hpre, hx, ha, b, hdone, hb⟩
      · rcases hnoticed' with hnone' | ⟨pre, x, b, rfl, hpre, hx, he, hb⟩
        · exact .inl (List.forall_mem_append.2 ⟨hnone, hnone'⟩)
        · exact .inr ⟨es₁ ++ pre, x, b, by simp, List.forall_mem_append.2 ⟨hnone, hpre⟩, hx, he, hb⟩
      · obtain rfl := Except.ok.inj ha
        obtain ⟨rfl, rfl⟩ := run_done_iff.1 (hdone ▸ hsecond)
        exact .inr ⟨pre, x, b, by simp, hpre, hx, rfl, hb⟩
    · intro he
      rw [List.countP_append]
      exact Nat.le_add_left_of_le (hwaits he)
  · obtain ⟨hcalls, hnoticed, hwaits⟩ := hm es _ hfirst
    refine ⟨hcalls, ?_, fun he => hwaits (congrArg _ (Except.error.inj he))⟩
    rcases hnoticed with hnone | ⟨_, _, _, -, -, -, ⟨⟩, -⟩
    exact .inl hnone

theorem ofOption {o : Option α} {f : α → Program β} (hf : ∀ a, Watchful P n (f a) post) :
    Watchful P n (.ofOption o >>= f) post := by
  cases o with
  | none => exact overflow
  | some a => exact hf a

/-- A program that does not notice the signal is no reason to stop. -/
theorem bind_unaware {m : Program α} {f : α → Program β} (hm : Watchful P n m fun _ => False)
    (hf : ∀ a, Watchful P n (f a) post) : Watchful P n (m >>= f) post :=
  .bind (hm.mono (fun _ h => h) (by simp)) hf

end Watchful

end Program

/-! ## The gates and the verifier -/

/-- The gates of this library with their settings. Each reads a set of its own. -/
structure ClusterGates where
  /-- The pacing. -/
  timing : Timing
  /-- The most rounds that a gate, or a poll, may take. -/
  rounds : Nat
  /-- How readiness is awaited. -/
  readiness : ReadinessSettings
  /-- The set whose replicas have to be ready. -/
  awaited : WorkloadId
  /-- How health is probed. -/
  health : HealthSettings
  /-- The set whose replicas are probed. -/
  probed : WorkloadId

namespace ClusterGates

/-- The gates. -/
def gates (c : ClusterGates) : Gates where
  timing := c.timing
  awaitReady := awaitReady c.rounds c.readiness c.awaited
  probeHealth checkpoint _ := probeCluster c.rounds c.health c.probed checkpoint

/-- The rollout of what a transform returns, with the gates of this library and the verifier that
compares revisions. -/
def rollout (c : ClusterGates) (retry : ConflictRetry) (jitter : Bool) (id : WorkloadId) :
    Program Outcome :=
  rollOutSuite c.gates ⟨externalTransform, ⟨.revision, retry, jitter, c.rounds⟩⟩ id

/-- What the wait for readiness fails with when it is interrupted. -/
def interruptedWait (c : ClusterGates) : Failure :=
  .plain s!"cancelled while waiting for {c.awaited} to be ready"

end ClusterGates

/-- What a health check fails with when it is interrupted. -/
def interruptedProbe (checkpoint : String) : Failure :=
  .plain s!"cancelled while checking cluster health {checkpoint}"

section

variable {c : ClusterGates} {id : WorkloadId} {n rounds : Nat}

theorem watchful_awaitReadyFrom {s : ReadinessSettings} {start : TimeSpan} :
    Watchful Request.LooksOn rounds (awaitReadyFrom s id start rounds)
      fun r => r = .error (.plain s!"cancelled while waiting for {id} to be ready") := by
  induction rounds with
  | zero => exact .exhausted
  | succ rounds ih =>
    rw [awaitReadyFrom]
    refine .call trivial rfl ?_
    rintro (e | w)
    · exact .done
    · simp only
      split
      · exact .done
      refine .call trivial rfl fun now => ?_
      split
      · exact .done
      · exact .wait trivial ih ⟨_, rfl, rfl⟩

theorem ClusterGates.watchful_awaitReady :
    Watchful Request.LooksOn c.rounds c.gates.awaitReady fun r => r = .error c.interruptedWait :=
  .call trivial rfl fun _ => watchful_awaitReadyFrom

theorem watchful_probeReplicas {s : HealthSettings} {status : WorkloadStatus}
    {count ordinal : Nat} :
    Watchful Request.LooksOn n (probeReplicas s status count ordinal) fun _ => False := by
  induction count generalizing ordinal with
  | zero => exact .done
  | succ count ih =>
    rw [probeReplicas]
    split
    · exact .done
    next address _ =>
      have hprobe : Watchful Request.LooksOn n (httpProbe address s.endpoint s.timeout)
          fun _ => False := by
        unfold httpProbe
        split
        · exact .done
        · exact .call trivial rfl fun _ => .done
      refine .bind_unaware hprobe ?_
      rintro (_ | _ | _)
      · exact ih
      · exact .done
      · exact .done

theorem watchful_probeClusterFrom {s : HealthSettings} {checkpoint : String} {t : HealthTracker} :
    Watchful Request.LooksOn rounds (probeClusterFrom s id checkpoint rounds t)
      fun r => r = .error (interruptedProbe checkpoint) := by
  induction rounds generalizing t with
  | zero => exact .exhausted
  | succ rounds ih =>
    have hround : Watchful Request.LooksOn (rounds + 1) (probeRound s id) fun _ => False := by
      refine .call trivial rfl ?_
      rintro (e | w)
      · exact .done
      · exact watchful_probeReplicas
    rw [probeClusterFrom]
    refine .look trivial (.bind_unaware hround fun result => .ofOption fun t => ?_) ⟨_, rfl, rfl⟩
    split
    · exact .done
    · exact .done
    · exact .wait trivial ih ⟨_, rfl, rfl⟩

theorem ClusterGates.watchful_probeHealth {checkpoint : String} {p : UInt32} :
    Watchful Request.LooksOn c.rounds (c.gates.probeHealth checkpoint p)
      fun r => r = .error (interruptedProbe checkpoint) :=
  watchful_probeClusterFrom

theorem watchful_verifyRevision {want : String} {p : UInt32} :
    Watchful Request.LooksOn n (verifyRevision want id p) fun _ => False := by
  refine .call trivial rfl ?_
  rintro (e | w) <;> exact .done

theorem watchful_check {desired : WorkloadSet} {p : UInt32} :
    Watchful Request.LooksOn n (Verifier.revision.check desired id p) fun _ => False := by
  show Watchful _ n (some <$> verifyRevision desired.updateRevision id p) _
  rw [map_eq_pure_bind]
  exact .bind_unaware watchful_verifyRevision fun _ => .done

end

/-! ## The rollout -/

section

variable {c : ClusterGates} {id : WorkloadId} {n rounds : Nat}

theorem watchful_updateWithin {partition : UInt32} {interval : TimeSpan}
    {change : WorkloadSet → WorkloadSet} {retries : Nat} {candidate : WorkloadSet} :
    Watchful (fun _ => True) n (updateWithin id partition interval change retries candidate)
      fun r => ∃ e, r = .error e := by
  induction retries generalizing candidate with
  | zero =>
    rw [updateWithin]
    refine .call trivial rfl ?_
    rintro (e | stored) <;> exact .done
  | succ retries ih =>
    rw [updateWithin]
    refine .call trivial rfl ?_
    rintro (e | stored)
    · simp only
      split
      · exact .done
      refine .delay trivial (.call trivial rfl ?_) ⟨_, rfl, _, rfl⟩
      rintro (e | latest)
      · exact .done
      · exact ih
    · exact .done

theorem watchful_pollFrom {b : Backoff} {check : Program (Option (Except Failure Unit))}
    {start interval : TimeSpan} {attempts : UInt32}
    (hcheck : ∀ n, Watchful (fun _ => True) n check fun _ => False) :
    Watchful (fun _ => True) rounds (pollFrom b check start rounds interval attempts)
      fun r => ∃ e, r = .error e := by
  induction rounds generalizing interval attempts with
  | zero => exact .exhausted
  | succ rounds ih =>
    have hwait : Watchful (fun _ => True) (rounds + 1) (b.wait interval) fun _ => False := by
      unfold Backoff.wait
      split
      · exact .done
      split
      · exact .overflow
      split
      · exact .call trivial rfl fun _ => .ofOption fun _ => .done
      · exact .done
    rw [pollFrom]
    refine .look trivial (.bind_unaware (hcheck _) ?_) ⟨_, rfl, _, rfl⟩
    rintro (_ | last | _)
    · exact .done
    · refine .call trivial rfl fun now => .bind_unaware hwait fun wait => .ofOption fun reach => ?_
      split
      · exact .done
      · exact .wait trivial (.ofOption fun _ => ih) ⟨_, rfl, _, rfl⟩
    · exact .done

theorem watchful_updateOrdinal {retry : ConflictRetry} {jitter : Bool} {working : WorkloadSet}
    {p : UInt32} :
    Watchful (fun _ => True) c.rounds
      ((⟨.revision, retry, jitter, c.rounds⟩ : Strategy).updateOrdinal c.gates id working p)
      fun r => ∃ e, r.2 = .error e := by
  rw [Strategy.updateOrdinal]
  refine .bind (c.watchful_awaitReady.mono (fun _ _ => trivial) ?_) ?_
  · rintro _ rfl
    exact ⟨_, rfl, _, rfl⟩
  rintro (cause | _)
  · exact .done
  refine .bind (watchful_updateWithin.mono (fun _ h => h) ?_) ?_
  · rintro _ ⟨e, rfl⟩
    exact ⟨_, rfl, _, rfl⟩
  rintro (e | stored)
  · exact .done
  have hcheck : ∀ n, Watchful (fun _ => True) n
      (Verifier.revision.check (working.withPartition p) id p) fun _ => False :=
    fun n => watchful_check.mono (fun _ _ => trivial) fun _ h => h
  refine .bind (.mono (.call trivial rfl fun _ => watchful_pollFrom hcheck) (fun _ h => h) ?_) ?_
  · rintro _ ⟨⟨attempts, elapsed, last⟩ | attempts, rfl⟩ <;> exact ⟨_, rfl, _, rfl⟩
  rintro (⟨⟨attempts, elapsed, last⟩ | attempts⟩ | n)
  · exact .done
  · exact .done
  refine .call trivial rfl ?_
  rintro (e | latest)
  · exact .done
  refine .bind (c.watchful_probeHealth.mono (fun _ _ => trivial) ?_) ?_
  · rintro _ rfl
    exact ⟨_, rfl, _, rfl⟩
  rintro (cause | _) <;> exact .done

theorem watchful_walk {retry : ConflictRetry} {jitter : Bool} {count : Nat} {working : WorkloadSet}
    {skipped : Bool} :
    Watchful (fun _ => True) c.rounds
      ((⟨.revision, retry, jitter, c.rounds⟩ : Strategy).walk c.gates id count working skipped)
      fun r => ∃ e, r.2.result = .error e := by
  induction count generalizing working skipped with
  | zero => exact .done
  | succ count ih =>
    rw [Strategy.walk]
    refine .look trivial ?_ ⟨_, rfl, _, rfl⟩
    refine .bind_unaware (watchful_verifyRevision.mono (fun _ _ => trivial) fun _ h => h) ?_
    rintro (cause | _)
    · refine .bind (watchful_updateOrdinal.mono (fun _ h => h) ?_) ?_
      · rintro ⟨latest, _⟩ ⟨e, rfl⟩
        exact ⟨_, rfl, _, rfl⟩
      rintro ⟨latest, cause | _⟩
      · exact .done
      · exact ih
    · exact ih

/-- **A rollout watches the signal.** Once it has noticed the signal it makes no further call and
fails, and it runs out of rounds only after as many waits. -/
theorem ClusterGates.watchful_rollout {retry : ConflictRetry} {jitter : Bool} :
    Watchful (fun _ => True) c.rounds (c.rollout retry jitter id)
      fun o => ∃ cause, o.result = .error cause := by
  refine .call trivial rfl ?_
  rintro (e | current)
  · exact .done
  refine .call trivial rfl ?_
  rintro (cause | desired)
  · exact .done
  refine .bind (watchful_walk.mono (fun _ h => h) ?_) ?_
  · rintro ⟨latest, skipped, _⟩ ⟨e, rfl⟩
    exact ⟨_, rfl, _, rfl⟩
  rintro ⟨latest, skipped, cause | _⟩ <;> exact .done

end

end PartitionedRollout
