/-
# PartitionedRollout.Proofs.Rollout.Interruption -- what an interrupted rollout reports

The exchange that notices the shutdown signal is the last one of a run, so the errand that it
belongs to is the last errand. What is then reported depends on that errand. A look or a wait of the
strategy itself makes the rollout cancelled; a gate that gives up because of the signal fails like
any other failing gate, with a text of its own as the only trace.
-/

import PartitionedRollout.Proofs.Rollout.Errands
import PartitionedRollout.Proofs.Rollout.Order
import PartitionedRollout.Proofs.Rollout.Stops
import PartitionedRollout.Proofs.Rollout.Watchful

namespace PartitionedRollout

open Program

/-! ## Interrupted requests -/

/-- What a rollout reports for an ordinal when the signal was noticed while a request was
answered. -/
def ClusterGates.interruption (c : ClusterGates) (p : UInt32) : Request → RolloutError
  | .awaitReady => .readinessWait p c.interruptedWait
  | .probeHealth checkpoint _ => .healthProbe checkpoint p (interruptedProbe checkpoint)
  | _ => .cancelled p

@[simp]
theorem ClusterGates.ordinal_interruption (c : ClusterGates) (p : UInt32) (r : Request) :
    (c.interruption p r).ordinal = some p := by
  cases r <;> rfl

@[simp]
theorem ClusterGates.root_interruption (c : ClusterGates) (p : UInt32) (r : Request) :
    (c.interruption p r).root = c.interruption p r := by
  cases r <;> rfl

/-- The reply tells that the signal was noticed while the request was answered. -/
def Program.Exchange.Interrupted (c : ClusterGates) : Exchange → Prop
  | ⟨.stopping, stopped⟩ => stopped = true
  | ⟨.sleep _, stopped⟩ => stopped = true
  | ⟨.awaitReady, reply⟩ => reply = .error c.interruptedWait
  | ⟨.probeHealth checkpoint _, reply⟩ => reply = .error (interruptedProbe checkpoint)
  | _ => False

section

variable {c : ClusterGates} {id : WorkloadId}

/-- A collaborator only looks on, and its answer tells when it noticed the signal. -/
theorem watchful_answers {r : Request} (hr : r.isDirect = false) :
    Watchful Request.LooksOn c.rounds (c.gates.answers .revision id r)
      fun x => Exchange.Interrupted c ⟨r, x⟩ := by
  cases r with
  | verify p desired => exact watchful_verifyRevision.mono (fun _ h => h) (by simp)
  | check p desired => exact watchful_check.mono (fun _ h => h) (by simp)
  | awaitReady => exact c.watchful_awaitReady
  | probeHealth checkpoint p => exact c.watchful_probeHealth
  | _ => cases hr

theorem Program.Exchange.Noticed.interrupted {x : Exchange} (h : x.Noticed) : x.Interrupted c := by
  obtain ⟨r, reply⟩ := x
  cases r with
  | stopping | sleep => exact h
  | _ => cases h

/-- An interrupted request is one of four, and its reply ends a rollout. -/
theorem Program.Exchange.Interrupted.failed {x : Exchange} (h : x.Interrupted c) : x.Failed := by
  obtain ⟨r, reply⟩ := x
  cases r with
  | awaitReady =>
    obtain rfl : reply = .error c.interruptedWait := h
    trivial
  | probeHealth checkpoint p =>
    obtain rfl : reply = .error (interruptedProbe checkpoint) := h
    trivial
  | stopping => exact h
  | sleep d => exact h
  | _ => cases h

/-- The interruption of a request is reported as a cancellation if the rollout makes the request on
its own behalf, and only then. -/
theorem Program.Exchange.Interrupted.cancelled_iff {x : Exchange} (h : x.Interrupted c)
    (p : UInt32) :
    (∃ q, c.interruption p x.request = .cancelled q) ↔ x.request.isDirect = true := by
  obtain ⟨r, reply⟩ := x
  cases r with
  | awaitReady | probeHealth => exact ⟨by rintro ⟨_, ⟨⟩⟩, by rintro ⟨⟩⟩
  | stopping | sleep => exact ⟨fun _ => rfl, fun _ => ⟨p, rfl⟩⟩
  | _ => cases h

namespace Program.Errands

variable {α : Type} {p : Program α} {errands : List Errand} {e : Ending α} {d : Errand}

/-- An errand of the rollout itself is one call. -/
theorem calls_of_direct (h : Errands (c.gates.answers .revision id) p errands e) (hd : d ∈ errands)
    (hdirect : d.request.isDirect = true) : d.calls = [d.exchange] :=
  h.calls_of_call hd (c.gates.transparent_answers .revision id d.request hdirect)

/-- Every other errand only looks on. -/
theorem looksOn (h : Errands (c.gates.answers .revision id) p errands e) (hd : d ∈ errands)
    (hdirect : d.request.isDirect = false) : ∀ x ∈ d.calls, x.request.LooksOn := by
  rcases h.answered hd with ⟨x, -, hrun⟩ | ⟨-, halt, hrun⟩
  · exact (watchful_answers hdirect _ _ hrun).calls
  · exact (watchful_answers hdirect _ _ hrun).calls

/-- The reply of an errand tells when the signal was noticed. -/
theorem interrupted (h : Errands (c.gates.answers .revision id) p errands e) (hd : d ∈ errands)
    {x : Exchange} (hx : x ∈ d.calls) (hnoticed : x.Noticed) : d.exchange.Interrupted c := by
  cases hdirect : d.request.isDirect with
  | true =>
    rw [h.calls_of_direct hd hdirect] at hx
    obtain rfl := List.mem_singleton.1 hx
    exact hnoticed.interrupted
  | false =>
    obtain ⟨pre, rest, hcalls⟩ := List.append_of_mem hx
    rcases h.answered hd with ⟨y, hy, hrun⟩ | ⟨-, halt, hrun⟩
    · obtain ⟨-, a, ha, hint⟩ := (watchful_answers hdirect _ _ (hcalls ▸ hrun)).last hnoticed
      obtain rfl := Except.ok.inj ha
      rwa [Errand.exchange, hy]
    · obtain ⟨-, _, ⟨⟩, -⟩ := (watchful_answers hdirect _ _ (hcalls ▸ hrun)).last hnoticed

end Program.Errands

end

/-! ## The last exchange of a run -/

/-- A call that is not the first one of a row comes later. -/
theorem Program.split_cons {pre post rest : List Exchange} {x y : Exchange}
    (h : pre ++ x :: post = y :: rest) (hne : x.request ≠ y.request) :
    ∃ front, pre = y :: front ∧ front ++ x :: post = rest := by
  rcases List.append_eq_cons_iff.1 h with ⟨-, h⟩ | ⟨front, rfl, rfl⟩
  · obtain ⟨rfl, -⟩ := List.cons.inj h
    exact absurd rfl hne
  · exact ⟨front, rfl, rfl⟩

/-- Every call of a suite but the first two belongs to the rollout. -/
theorem run_rollOutSuite_split {g : Gates} {strategy : Strategy} {id : WorkloadId}
    {pre post : List Exchange} {x : Exchange} {e : Ending Outcome}
    (h : Run (rollOutSuite g ⟨externalTransform, strategy⟩ id) (pre ++ x :: post) e)
    (hget : x.request ≠ .get id) (htransform : ∀ w, x.request ≠ .transform w) :
    ∃ current desired front ending,
      pre = ⟨.get id, .ok current⟩ :: ⟨.transform current, .ok desired⟩ :: front ∧
      Run (strategy.rollOut g id desired) (front ++ x :: post) ending ∧
      e = ending.map fun walked => walked.2.inStrategy id := by
  rcases run_rollOutSuite h with ⟨cause, hes, -⟩ | ⟨current, cause, hes, -⟩ |
    ⟨current, desired, rest, ending, hes, hrun, rfl⟩
  · obtain ⟨tail, -, htail⟩ := split_cons hes hget
    simp at htail
  · obtain ⟨tail, -, htail⟩ := split_cons hes hget
    obtain ⟨front, -, hfront⟩ := split_cons htail (htransform current)
    simp at hfront
  · obtain ⟨tail, rfl, htail⟩ := split_cons hes hget
    obtain ⟨front, rfl, rfl⟩ := split_cons htail (htransform current)
    exact ⟨current, desired, front, ending, rfl, hrun, rfl⟩

section

variable {c : ClusterGates} {id : WorkloadId} {retry : ConflictRetry} {jitter : Bool} {rounds : Nat}
  {timing : Timing} {pre post : List Exchange} {x : Exchange}

/-- A rollout with outside collaborators makes no further call after one that was interrupted. -/
theorem run_rollOutSuite_interrupted {e : Ending Outcome}
    (h : Run (rollOutSuite (.external timing)
      ⟨externalTransform, ⟨.external, retry, jitter, rounds⟩⟩ id) (pre ++ x :: post) e)
    (hx : x.Interrupted c) :
    post = [] ∧ ∃ current desired front ending,
      pre = ⟨.get id, .ok current⟩ :: ⟨.transform current, .ok desired⟩ :: front ∧
      Run ((⟨.external, retry, jitter, rounds⟩ : Strategy).rollOut (.external timing) id desired)
        (front ++ [x]) ending ∧ e = ending.map fun walked => walked.2.inStrategy id := by
  have hget : x.request ≠ .get id := by
    obtain ⟨r, reply⟩ := x
    rintro rfl
    exact hx
  have htransform : ∀ w, x.request ≠ .transform w := by
    obtain ⟨r, reply⟩ := x
    rintro w rfl
    exact hx
  obtain ⟨current, desired, front, ending, rfl, hrun, he⟩ :=
    run_rollOutSuite_split h hget htransform
  obtain ⟨t, hmoves, -⟩ := run_rollOut hrun
  obtain ⟨rfl, -⟩ := hmoves.failed_last hx.failed
  exact ⟨rfl, current, desired, front, ending, rfl, hrun, he⟩

/-- A rollout that stops at an interrupted request reports the interruption. -/
theorem Stops.interrupted {policy : ConflictRetry} {s : Stage} {cause : RolloutError}
    (h : Stops policy id s (pre ++ [x]) cause) (hx : x.Interrupted c) :
    ∃ p, p + 1 + pre.countP Exchange.concludes = s.left ∧
      cause = c.interruption (.ofNat p) x.request := by
  obtain ⟨p, hp, hordinal⟩ := h.ordinal
  have hx₀ : x.concludes = false := by
    obtain ⟨r, reply⟩ := x
    cases r with
    | probeHealth checkpoint p =>
      obtain rfl : reply = .error (interruptedProbe checkpoint) := hx
      rfl
    | verify p desired => cases hx
    | _ => rfl
  refine ⟨p, by simpa [hx₀] using hp, ?_⟩
  obtain ⟨front, last, u, hes, hmoves, hstop⟩ := h
  suffices ∃ q, cause = c.interruption q x.request by
    obtain ⟨q, rfl⟩ := this
    rw [Option.some.inj ((c.ordinal_interruption q x.request).symm.trans hordinal)]
  cases hstop with
  | expire =>
    -- The last call would have come before the stage, which is not the end.
    rw [List.append_nil] at hes
    subst hes
    cases (hmoves.failed_last hx.failed).2
  | unready =>
    obtain ⟨-, hlast⟩ := List.append_inj' hes rfl
    obtain rfl := List.singleton_inj.1 hlast
    obtain rfl := Except.error.inj hx
    exact ⟨_, rfl⟩
  | sicken =>
    obtain ⟨-, hlast⟩ := List.append_inj' hes rfl
    obtain rfl := List.singleton_inj.1 hlast
    obtain rfl := Except.error.inj hx
    exact ⟨_, rfl⟩
  | interrupt | rouse | giveUp | wake =>
    obtain ⟨-, hlast⟩ := List.append_inj' hes rfl
    obtain rfl := List.singleton_inj.1 hlast
    exact ⟨_, rfl⟩
  | reject | lose | cut | vanish =>
    obtain ⟨-, hlast⟩ := List.append_inj' hes rfl
    obtain rfl := List.singleton_inj.1 hlast
    cases hx

end

/-! ## What an interrupted rollout reports -/

/-- A rollout with the gates of this library is one with outside gates whose questions are
answered. -/
theorem ClusterGates.run_rollout_iff {c : ClusterGates} {retry : ConflictRetry} {jitter : Bool}
    {id : WorkloadId} {es : List Exchange} {e : Ending Outcome} :
    Run (c.rollout retry jitter id) es e ↔ ∃ errands,
      Errands (c.gates.answers .revision id) (rollOutSuite (.external c.timing)
        ⟨externalTransform, ⟨.external, retry, jitter, c.rounds⟩⟩ id) errands e ∧
      es = errands.flatMap Errand.calls := by
  rw [← run_handle_iff_errands]
  exact iff_of_eq (congrArg (Run · es e)
    (c.gates.handle_rollOutSuite .revision id retry jitter c.rounds).symm)

/-- What the error of a rollout says about the errand `d` that was interrupted, after the others. -/
structure ClusterGates.Interrupts (c : ClusterGates) (replicas : UInt32) (errands : List Errand)
    (d : Errand) (cause : RolloutError) : Prop where
  /-- The signal was noticed by the last exchange of all, which was made for that errand. -/
  noticed : ∃ pre x, (errands ++ [d]).flatMap Errand.calls = pre ++ [x] ∧ x ∈ d.calls ∧ x.Noticed
  /-- The error names the ordinal that was being handled: those above are done with, and those below
  are left. What it reports depends on the errand. -/
  reported : ∃ p, p + 1 + (errands.map Errand.exchange).countP Exchange.concludes = replicas.toNat ∧
    cause.ordinal = some (.ofNat p) ∧ cause.root = c.interruption (.ofNat p) d.request
  /-- It is a cancellation if the strategy itself noticed the signal, and only then. -/
  cancelled : (∃ p, cause.root = .cancelled p) ↔ d.request.isDirect = true

/-- **Interruptions.** A rollout with the gates of this library fails, and one of its looks or waits
noticed the shutdown signal. Then that was its last exchange, and it belongs to the last errand of
the run. The error names the ordinal that was being handled. It is a cancellation if the strategy
itself noticed the signal; if a gate did, it is the failure of that gate instead. -/
theorem ClusterGates.rollout_interrupted {c : ClusterGates} {retry : ConflictRetry} {jitter : Bool}
    {id : WorkloadId} {es : List Exchange} {skipped : Bool} {cause : RolloutError}
    (hrun : Run (c.rollout retry jitter id) es (.ok (.failed skipped cause)))
    (hnoticed : ∃ x ∈ es, x.Noticed) :
    ∃ errands d current desired,
      Errands (c.gates.answers .revision id) (rollOutSuite (.external c.timing)
        ⟨externalTransform, ⟨.external, retry, jitter, c.rounds⟩⟩ id) (errands ++ [d])
        (.ok (.failed skipped cause)) ∧
      es = (errands ++ [d]).flatMap Errand.calls ∧
      ⟨.transform current, .ok desired⟩ ∈ errands.map Errand.exchange ∧
      c.Interrupts desired.spec.replicas errands d cause := by
  obtain ⟨x, hx, hnoticed⟩ := hnoticed
  obtain ⟨pre, rest, hpre⟩ := List.append_of_mem hx
  obtain ⟨rfl, -⟩ := (c.watchful_rollout _ _ (hpre ▸ hrun)).last hnoticed
  obtain ⟨errands, herrands, rfl⟩ := run_rollout_iff.1 hrun
  obtain ⟨d, hd, hxd⟩ := List.mem_flatMap.1 hx
  have hint := herrands.interrupted hd hxd hnoticed
  obtain ⟨before, later, rfl⟩ := List.append_of_mem hd
  -- The errands are the calls of a rollout with outside gates, which stops at the interruption.
  obtain ⟨more, e', hsuite, -, hok⟩ := herrands.run
  obtain ⟨rfl, rfl⟩ := hok _ rfl
  rw [List.append_nil, List.map_append, List.map_cons] at hsuite
  obtain ⟨hlater, current, desired, front, ending, hbefore, hrollOut, he⟩ :=
    run_rollOutSuite_interrupted hsuite hint
  obtain rfl : later = [] := List.map_eq_nil_iff.1 hlater
  obtain ⟨latest, source, rfl, rfl⟩ := map_inStrategy_eq_failed.1 he.symm
  obtain ⟨p, hp, rfl⟩ := (run_rollOut_failed hrollOut rfl).interrupted hint
  have hroot : ((c.interruption (.ofNat p) d.exchange.request).inStrategy id).root =
      c.interruption (.ofNat p) d.exchange.request := c.root_interruption _ _
  refine ⟨before, d, current, desired, herrands, rfl, ?_, ⟨pre, x, hpre, hxd, hnoticed⟩,
    ⟨p, ?_, ?_, hroot⟩, ?_⟩
  · rw [hbefore]
    exact List.mem_cons_of_mem _ List.mem_cons_self
  · rw [hbefore]
    exact hp
  · exact c.ordinal_interruption _ _
  · rw [hroot]
    exact hint.cancelled_iff _

/-! ## Two interrupted rollouts -/

namespace ToldToStop

/-- The set that is rolled out. -/
def id : WorkloadId :=
  ⟨"db", "cockroach"⟩

/-- The gates. -/
def cluster : ClusterGates :=
  ⟨.standard, 3, ⟨.ofMillis 400, .ofSecs 3⟩, id, .standard, id⟩

/-- One replica, which has not reported. -/
def silent : WorkloadSet :=
  { WorkloadSet.ofSpec id 1 (.ofImage "v1") with resourceVersion := 1, generation := 1 }

/-- The same replica, which serves. -/
def serving : WorkloadSet :=
  { silent with status := ⟨0, [⟨0, "old", true, none⟩]⟩ }

/-- What is rolled out. -/
def desired : WorkloadSet :=
  silent.withTemplate (.ofImage "v2")

/-- The replica never reports, and the wait for its readiness is interrupted. -/
def callsUnready : List Exchange :=
  [⟨.get id, .ok silent⟩, ⟨.transform silent, .ok desired⟩, ⟨.stopping, false⟩,
    ⟨.get id, .ok silent⟩, ⟨.now, .zero⟩, ⟨.get id, .ok silent⟩, ⟨.now, .zero⟩,
    ⟨.sleep (.ofMillis 400), true⟩]

/-- The set cannot be read to verify the replica, which serves by the next read. The update meets a
conflict, and the delay after it is interrupted. -/
def callsRefused : List Exchange :=
  [⟨.get id, .ok silent⟩, ⟨.transform silent, .ok desired⟩, ⟨.stopping, false⟩,
    ⟨.get id, .error (.read "busy")⟩, ⟨.now, .zero⟩, ⟨.get id, .ok serving⟩,
    ⟨.update (candidate 0 (desired.withPartition 0) (desired.withPartition 0)),
      .error (.conflict id.key 1 2)⟩,
    ⟨.sleep ConflictRetry.standard.interval, true⟩]

theorem run_callsUnready :
    Run (cluster.rollout .standard false id) callsUnready
      (.ok (.failed false (.strategy id (.readinessWait 0 cluster.interruptedWait)))) := by
  repeat apply Run.ask
  exact .done _

theorem run_callsRefused :
    Run (cluster.rollout .standard false id) callsRefused
      (.ok (.failed false (.strategy id (.cancelled 0)))) := by
  repeat apply Run.ask
  exact .done _

end ToldToStop

/-- The conflict delay is interrupted: it is an errand of the strategy itself. -/
theorem ClusterGates.rollout_interrupted_conflict_delay :
    let cause := RolloutError.strategy ToldToStop.id (.cancelled 0)
    Run (ToldToStop.cluster.rollout .standard false ToldToStop.id) ToldToStop.callsRefused
        (.ok (.failed false cause)) ∧
      ∃ errands d replicas, ToldToStop.callsRefused = (errands ++ [d]).flatMap Errand.calls ∧
        ToldToStop.cluster.Interrupts replicas errands d cause ∧ d.request.isDirect = true := by
  obtain ⟨errands, d, current, desired, -, hes, -, hinterrupts⟩ :=
    ToldToStop.cluster.rollout_interrupted ToldToStop.run_callsRefused
      ⟨⟨.sleep ConflictRetry.standard.interval, true⟩, by simp [ToldToStop.callsRefused], rfl⟩
  exact ⟨ToldToStop.run_callsRefused, errands, d, _, hes, hinterrupts,
    hinterrupts.cancelled.1 ⟨0, rfl⟩⟩

/-- An interrupted wait for readiness is reported, but not as a cancellation. -/
theorem ClusterGates.interrupted_wait_not_cancelled :
    ∃ cause, Run (ToldToStop.cluster.rollout .standard false ToldToStop.id) ToldToStop.callsUnready
        (.ok (.failed false cause)) ∧
      ToldToStop.callsUnready.getLast? = some ⟨.sleep (.ofMillis 400), true⟩ ∧
      ∀ p, cause.root ≠ .cancelled p :=
  ⟨_, ToldToStop.run_callsUnready, rfl, by rintro p ⟨⟩⟩

end PartitionedRollout
