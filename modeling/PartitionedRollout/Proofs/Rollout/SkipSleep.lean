/-
# PartitionedRollout.Proofs.Rollout.SkipSleep -- what the flag of an outcome tells

A rollout hands a flag down its walk, raises it at an ordinal that had converged and lowers it at
one that was updated. So the flag tells about the last pre-check of a run: `run_walk_skipSleep` says
so by induction on the ordinals that are left. No pre-check is made while an ordinal is updated,
which follows from where such an update can end: at the ordinal below, or at a stop that names the
ordinal itself.

What that means for an error is read off the stop that it reports.
-/

import PartitionedRollout.Proofs.Rollout.BlastRadius
import PartitionedRollout.Proofs.Rollout.Stops

namespace PartitionedRollout

open Program

/-! ## Verdicts -/

/-- The verdict of a pre-check. -/
def Program.Exchange.verdict? : Exchange → Option (Except Failure Unit)
  | ⟨.verify _ _, verdict⟩ => some verdict
  | _ => none

/-- The verdict of the last pre-check, if one was made. -/
def lastVerdict? (es : List Exchange) : Option (Except Failure Unit) :=
  (es.filterMap Exchange.verdict?).getLast?

section

variable {es es' : List Exchange} {x : Exchange}

theorem verdict?_eq_none_iff : x.verdict? = none ↔ x.precheck? = none := by
  obtain ⟨r, reply⟩ := x
  cases r <;> simp [Exchange.verdict?, Exchange.precheck?]

theorem filterMap_verdict?_eq_nil (h : es.filterMap Exchange.precheck? = []) :
    es.filterMap Exchange.verdict? = [] := by
  rw [List.filterMap_eq_nil_iff] at h ⊢
  intro x hx
  exact verdict?_eq_none_iff.2 (h x hx)

/-- Calls without a pre-check at the end do not matter. -/
theorem lastVerdict?_append_of_nil (h : es'.filterMap Exchange.precheck? = []) :
    lastVerdict? (es ++ es') = lastVerdict? es := by
  unfold lastVerdict?
  rw [List.filterMap_append, filterMap_verdict?_eq_nil h, List.append_nil]

/-- Neither do such calls at the beginning. -/
theorem lastVerdict?_nil_append (h : es'.filterMap Exchange.precheck? = []) :
    lastVerdict? (es' ++ es) = lastVerdict? es := by
  unfold lastVerdict?
  rw [List.filterMap_append, filterMap_verdict?_eq_nil h, List.nil_append]

/-- A pre-check is the last one unless another one follows. -/
theorem lastVerdict?_verify {p : UInt32} {w : WorkloadSet} {verdict : Except Failure Unit} :
    lastVerdict? (⟨.verify p w, verdict⟩ :: es) = some ((lastVerdict? es).getD verdict) :=
  List.getLast?_cons

theorem map_verdict_note (vs : List Visit) (x : Exchange) :
    (Visit.note vs x).map Visit.verdict = x.verdict?.toList ++ vs.map Visit.verdict := by
  obtain ⟨r, reply⟩ := x
  cases r <;> cases vs <;> rfl

theorem map_verdict_foldl_note (vs : List Visit) :
    (es.foldl Visit.note vs).map Visit.verdict =
      (es.filterMap Exchange.verdict?).reverse ++ vs.map Visit.verdict := by
  induction es generalizing vs with
  | nil => rfl
  | cons x es ih =>
    rw [List.foldl_cons, ih, map_verdict_note]
    cases hx : x.verdict? <;> simp [hx]

/-- The last pre-check is that of the latest visit. -/
theorem lastVerdict?_eq : lastVerdict? es = (visits es).head?.map Visit.verdict := by
  unfold lastVerdict?
  rw [← List.head?_map, visits, map_verdict_foldl_note, List.map_nil, List.append_nil,
    List.head?_reverse]

end

/-! ## The flag of a walk -/

section

variable {policy : ConflictRetry} {id : WorkloadId} {s t : Stage} {es : List Exchange}
  {cause : RolloutError}

theorem Stop.prechecks (h : Stop policy id s es cause) :
    es.filterMap Exchange.precheck? = [] := by
  cases h <;> rfl

/-- At most the ordinal that a rollout is at is not done with and pre-checked. -/
theorem Stage.left_le_unchecked (s : Stage) : s.left ≤ s.unchecked + 1 := by
  cases s <;> simp [Stage.left, Stage.unchecked]

theorem Moves.prechecks_length (h : Moves policy id s es t) (ht : t ≠ .ended) :
    (es.filterMap Exchange.precheck?).length + t.unchecked = s.unchecked := by
  obtain ⟨rest, hrest, hunchecked⟩ := h.prechecks
  have hlength := congrArg List.length hrest
  rw [hunchecked ht] at hlength
  simpa [descending] using hlength.symm

/-- No pre-check is made while an ordinal is updated. -/
theorem prechecks_updateOrdinal {s : Strategy} {timing : Timing} {p : Nat} {w : WorkloadSet}
    {r : WorkloadSet × Except RolloutError Unit} (hs : s.verifier = .external)
    (hp : p < UInt32.size)
    (h : Run (s.updateOrdinal (.external timing) id w (.ofNat p)) es (.ok r)) :
    es.filterMap Exchange.precheck? = [] := by
  rw [← List.length_eq_zero_iff]
  rcases accounted_updateOrdinal hs es r h with ⟨t, hmoves, -, rfl⟩ | ⟨cause, hcause, hstops⟩
  · have hcount : _ + p = p := hmoves.prechecks_length (by simp)
    omega
  · have hnamed := (confined_updateOrdinal hs es _ h).2 r rfl cause hcause
    obtain ⟨pre, last, u, rfl, hmoves, hstop⟩ := hstops
    obtain ⟨q, hleft, -, hordinal⟩ := hstop.ordinal
    -- The stop is at the ordinal itself, so those below it are all unchecked.
    have hq : UInt32.ofNat q = .ofNat p := Option.some.inj (hordinal.symm.trans hnamed)
    have hcount : _ + u.unchecked = p := hmoves.prechecks_length hstop.not_ended
    have hunchecked := u.left_le_unchecked
    have hqp : p ≤ q := by
      have := congrArg UInt32.toNat hq
      rw [UInt32.toNat_ofNat_of_lt' hp, UInt32.toNat_ofNat'] at this
      rw [← this]
      exact Nat.mod_le _ _
    rw [List.filterMap_append, hstop.prechecks, List.append_nil]
    omega

/-- A walk ends with the flag that its last pre-check calls for, or with the one it was given. -/
theorem run_walk_skipSleep {s : Strategy} {timing : Timing} {count : Nat} {w latest : WorkloadSet}
    {skipped : Bool} {o : Outcome} (hs : s.verifier = .external) (hcount : count ≤ UInt32.size)
    (h : Run (s.walk (.external timing) id count w skipped) es (.ok (latest, o))) :
    o.skipSleep = (lastVerdict? es).elim skipped Except.isOk := by
  induction count generalizing w skipped es with
  | zero =>
    obtain ⟨rfl, he⟩ := run_done_iff.1 h
    obtain ⟨rfl, rfl⟩ := Prod.mk.inj (Except.ok.inj he)
    rfl
  | succ count ih =>
    have hcount' : count ≤ UInt32.size := Nat.le_of_succ_le hcount
    rw [Strategy.walk, run_call_bind_iff] at h
    obtain ⟨stopped, es, rfl, h⟩ := h
    cases stopped with
    | true =>
      obtain ⟨rfl, he⟩ := run_done_iff.1 h
      obtain ⟨rfl, rfl⟩ := Prod.mk.inj (Except.ok.inj he)
      rfl
    | false =>
      simp only [Bool.false_eq_true, if_false] at h
      rw [hs] at h
      replace h := run_call_bind_iff.1 h
      obtain ⟨verdict, es, rfl, h⟩ := h
      show o.skipSleep =
        (lastVerdict? (⟨.verify (.ofNat count) w, verdict⟩ :: es)).elim skipped Except.isOk
      rw [lastVerdict?_verify]
      cases verdict with
      | ok _ =>
        rw [ih hcount' h]
        cases lastVerdict? es <;> rfl
      | error _ =>
        rcases run_bind_iff.1 h with ⟨⟨working, result⟩, es₁, es₂, rfl, hupdate, h⟩ | ⟨_, ⟨⟩, -⟩
        rw [lastVerdict?_nil_append (prechecks_updateOrdinal hs hcount hupdate)]
        cases result with
        | error e =>
          obtain ⟨rfl, he⟩ := run_done_iff.1 h
          obtain ⟨rfl, rfl⟩ := Prod.mk.inj (Except.ok.inj he)
          rfl
        | ok _ =>
          rw [ih hcount' h]
          cases lastVerdict? es₂ <;> rfl

end

/-! ## The flag and the errors -/

/-- The flag of an outcome tells about the last ordinal handled. -/
structure TellsLast (count : Nat) (es : List Exchange) (o : Outcome) : Prop where
  /-- It is raised exactly if a pre-check was made and the last one succeeded. -/
  verdict : o.skipSleep = true ↔ lastVerdict? es = some (.ok ())
  /-- An error names one of the ordinals. -/
  named : ∀ cause, o.result = .error cause → ∃ p, cause.ordinal = some p ∧ p.toNat < count
  /-- The flag is not raised if that ordinal had been pre-checked: it was being updated. -/
  updating : ∀ cause p, o.result = .error cause → cause.ordinal = some p →
    p ∈ es.filterMap Exchange.precheck? → o.skipSleep = false
  /-- If not, the rollout was told to stop before that ordinal. Then the flag tells whether the
  ordinal above it was skipped, and is not raised if there is none. -/
  before : ∀ cause p, o.result = .error cause → cause.ordinal = some p →
    p ∉ es.filterMap Exchange.precheck? →
    cause = .cancelled p ∧ (p.toNat + 1 = count → o.skipSleep = false) ∧
      (p.toNat + 1 < count → ∃ v earlier, visits es = v :: earlier ∧
        v.ordinal = .ofNat (p.toNat + 1) ∧ (o.skipSleep = true ↔ v.Skipped))

/-- What has to be shown of the one error and the one ordinal that it names. -/
theorem TellsLast.of_error {count : Nat} {es : List Exchange} {o : Outcome} {cause : RolloutError}
    {p : UInt32} (hverdict : o.skipSleep = true ↔ lastVerdict? es = some (.ok ()))
    (ho : o.result = .error cause) (hordinal : cause.ordinal = some p) (hp : p.toNat < count)
    (hupdating : p ∈ es.filterMap Exchange.precheck? → o.skipSleep = false)
    (hbefore : p ∉ es.filterMap Exchange.precheck? →
      cause = .cancelled p ∧ (p.toNat + 1 = count → o.skipSleep = false) ∧
        (p.toNat + 1 < count → ∃ v earlier, visits es = v :: earlier ∧
          v.ordinal = .ofNat (p.toNat + 1) ∧ (o.skipSleep = true ↔ v.Skipped))) :
    TellsLast count es o := by
  refine ⟨hverdict, ?_, ?_, ?_⟩
  · intro cause hcause
    obtain rfl := Except.error.inj (ho.symm.trans hcause)
    exact ⟨p, hordinal, hp⟩
  · intro cause q hcause hq
    obtain rfl := Except.error.inj (ho.symm.trans hcause)
    obtain rfl := Option.some.inj (hordinal.symm.trans hq)
    exact hupdating
  · intro cause q hcause hq
    obtain rfl := Except.error.inj (ho.symm.trans hcause)
    obtain rfl := Option.some.inj (hordinal.symm.trans hq)
    exact hbefore

section

variable {policy : ConflictRetry} {id : WorkloadId} {replicas : UInt32} {w : WorkloadSet}
  {es : List Exchange} {s : Stage} {cause : RolloutError}

/-- A stop is a look at the signal between two ordinals, or it is at an ordinal that is being
updated. -/
theorem Stop.where (h : Stop policy id s es cause) :
    (∃ p w, s = .between (p + 1) w ∧ es = [⟨.stopping, true⟩] ∧ cause = .cancelled (.ofNat p)) ∨
      ∃ p, s.updating? = some p ∧ cause.ordinal = some (.ofNat p) := by
  cases h with
  | interrupt => exact .inl ⟨_, _, rfl, rfl, rfl⟩
  | _ => exact .inr ⟨_, rfl, rfl⟩

/-- An ordinal that is being updated was pre-checked last, and it had not converged. -/
theorem Moves.updating {p : Nat} (h : Moves policy id (.between replicas.toNat w) es s)
    (hs : s.updating? = some p) :
    p < replicas.toNat ∧ .ofNat p ∈ es.filterMap Exchange.precheck? ∧
      ∃ failure, lastVerdict? es = some (.error failure) := by
  obtain ⟨failure, calls, earlier, hvisits, -, above⟩ := h.fits.current hs
  refine ⟨above.le, ?_, failure, ?_⟩
  · rw [← List.mem_reverse, ← map_ordinal_visits, hvisits]
    exact List.mem_cons_self
  · rw [lastVerdict?_eq, hvisits]
    rfl

/-- Between two ordinals, the lower ones are not pre-checked. -/
theorem Moves.not_prechecked {p : Nat} {working : WorkloadSet}
    (h : Moves policy id (.between replicas.toNat w) es (.between (p + 1) working)) :
    .ofNat p ∉ es.filterMap Exchange.precheck? := by
  obtain ⟨rest, hrest, hunchecked⟩ := h.prechecks
  rw [hunchecked (by simp)] at hrest
  have hdown := descending_pairwise (Nat.le_of_lt replicas.toNat_lt)
  rw [show descending replicas.toNat = _ from hrest] at hdown
  intro hp
  have hlt := (List.pairwise_append.1 hdown).2.2 _ hp (.ofNat p)
    (by rw [show Stage.unchecked (.between (p + 1) working) = p + 1 from rfl, descending_succ]
        exact List.mem_cons_self)
  exact UInt32.lt_irrefl _ hlt

/-- Of the ordinals that are handled to their end, the last one was skipped exactly if its pre-check
succeeded. -/
theorem Covers.lastVerdict? {count p : Nat} (h : Covers id count p (visits es)) :
    (p = count → lastVerdict? es = none) ∧
      (p < count → ∃ v earlier, visits es = v :: earlier ∧ v.ordinal = .ofNat p ∧
        (lastVerdict? es = some (.ok ()) ↔ v.Skipped)) := by
  rw [lastVerdict?_eq]
  generalize visits es = vs at h
  cases h with
  | nil => exact ⟨fun _ => rfl, fun hlt => absurd hlt (Nat.lt_irrefl _)⟩
  | @cons p v vs ordinal complete above =>
    refine ⟨fun hp => absurd above.le (by omega), fun _ => ⟨v, vs, rfl, ordinal, ?_⟩⟩
    show some v.verdict = some (.ok ()) ↔ v.Skipped
    rw [Option.some.injEq]
    constructor
    · intro hverdict
      rcases complete with hskipped | ⟨⟨failure, hfailure⟩, -⟩
      · exact hskipped
      · cases hverdict.symm.trans hfailure
    · exact And.left

/-- What the flag tells follows from the last pre-check and the stop. -/
theorem Stops.tellsLast {o : Outcome} (h : Stops policy id (.between replicas.toNat w) es cause)
    (ho : o.result = .error cause)
    (hverdict : o.skipSleep = true ↔ lastVerdict? es = some (.ok ())) :
    TellsLast replicas.toNat es o := by
  obtain ⟨pre, last, u, rfl, hmoves, hstop⟩ := h
  have hchecks : (pre ++ last).filterMap Exchange.precheck? =
      pre.filterMap Exchange.precheck? := by
    rw [List.filterMap_append, hstop.prechecks, List.append_nil]
  have hlower : lastVerdict? (pre ++ last) ≠ some (.ok ()) →
      o.skipSleep = false := by
    intro hne
    rw [← Bool.not_eq_true, hverdict]
    exact hne
  have hnat : ∀ p < replicas.toNat, (UInt32.ofNat p).toNat = p :=
    fun p hp => UInt32.toNat_ofNat_of_lt' (Nat.lt_trans hp replicas.toNat_lt)
  rcases hstop.where with ⟨p, working, rfl, rfl, rfl⟩ | ⟨p, hu, hordinal⟩
  case inl =>
    have hcovers : Covers id replicas.toNat (p + 1) (visits (pre ++ [⟨.stopping, true⟩])) := by
      rw [visits, List.foldl_append]
      exact hmoves.fits.covers_of_between.note_stopping true
    obtain ⟨hhighest, habove⟩ := hcovers.lastVerdict?
    have hp := hnat p hcovers.le
    refine .of_error hverdict ho rfl (by rw [hp]; exact hcovers.le) ?_ ?_
    · rw [hchecks]
      intro hmem
      exact absurd hmem hmoves.not_prechecked
    · rw [hp]
      refine fun _ => ⟨rfl, ?_, ?_⟩
      · intro hcount
        apply hlower
        rw [hhighest hcount]
        simp
      · rw [hverdict]
        exact habove
  case inr =>
    obtain ⟨hlt, hmem, failure, hfailure⟩ := hmoves.updating hu
    refine .of_error hverdict ho hordinal (by rwa [hnat p hlt]) ?_ ?_
    · intro _
      apply hlower
      rw [lastVerdict?_append_of_nil hstop.prechecks, hfailure]
      simp
    · rw [hchecks]
      intro hnot
      exact absurd hmem hnot

end

/-- **The flag tells about the last ordinal.** Whatever the store, the transform, the verifier, the
gates, the clock and the signal answer: the flag of a rollout is raised exactly if a pre-check was
made and the last one succeeded. So it is not raised after an error that was met while an ordinal
was updated, and after a cancellation before an ordinal it tells whether the one above was skipped.
A suite passes it on as it is, with success and with failure, and does not raise it if the set could
not be read or the desired one not be computed. -/
theorem rollOut_skipSleep {retry : ConflictRetry} {jitter : Bool} {rounds : Nat} {timing : Timing}
    {id : WorkloadId} :
    (∀ working es latest o, Run ((⟨.external, retry, jitter, rounds⟩ : Strategy).rollOut
        (.external timing) id working) es (.ok (latest, o)) →
      TellsLast working.spec.replicas.toNat es o) ∧
    ∀ es o, Run (rollOutSuite (.external timing)
        ⟨externalTransform, ⟨.external, retry, jitter, rounds⟩⟩ id) es (.ok o) →
      (((∃ cause, es = [⟨.get id, .error cause⟩]) ∨
          ∃ current cause, es = [⟨.get id, .ok current⟩, ⟨.transform current, .error cause⟩]) ∧
        o.skipSleep = false) ∨
      ∃ current desired rest latest passed,
        es = ⟨.get id, .ok current⟩ :: ⟨.transform current, .ok desired⟩ :: rest ∧
        Run ((⟨.external, retry, jitter, rounds⟩ : Strategy).rollOut (.external timing) id desired)
          rest (.ok (latest, passed)) ∧
        o.skipSleep = passed.skipSleep ∧ (o.result = .ok () ↔ passed.result = .ok ()) := by
  constructor
  · intro working es latest o h
    have hflag := run_walk_skipSleep rfl (Nat.le_of_lt working.spec.replicas.toNat_lt) h
    have hverdict : o.skipSleep = true ↔ lastVerdict? es = some (.ok ()) := by
      rw [hflag]
      rcases lastVerdict? es with _ | _ | _ <;> simp [Except.isOk, Except.toBool]
    cases ho : o.result with
    | ok _ => exact ⟨hverdict, by simp [ho], by simp [ho], by simp [ho]⟩
    | error cause => exact (run_rollOut_failed h ho).tellsLast ho hverdict
  · intro es o h
    rcases run_rollOutSuite h with ⟨cause, rfl, he⟩ | ⟨current, cause, rfl, he⟩ |
      ⟨current, desired, rest, ending, rfl, hrun, he⟩
    · obtain rfl := Except.ok.inj he
      exact .inl ⟨.inl ⟨cause, rfl⟩, rfl⟩
    · obtain rfl := Except.ok.inj he
      exact .inl ⟨.inr ⟨current, cause, rfl⟩, rfl⟩
    · obtain halt | ⟨latest, passed⟩ := ending
      · cases he
      · obtain rfl := Except.ok.inj he
        refine .inr ⟨current, desired, rest, latest, passed, rfl, hrun, rfl, ?_⟩
        obtain ⟨skipped, result⟩ := passed
        cases result with
        | ok _ => exact iff_of_true rfl rfl
        | error cause => exact iff_of_false (fun h => nomatch h) (fun h => nomatch h)

/-- Two replicas: the higher one has converged, and the rollout is told to stop before the lower
one. The suite reports that with the flag raised. -/
theorem rollOut_skipSleep_interrupted :
    let id : WorkloadId := ⟨"db", "a"⟩
    let desired : WorkloadSet := .ofSpec id 2 (.ofImage "v2")
    let calls : List Exchange :=
      [⟨.stopping, false⟩, ⟨.verify 1 desired, .ok ()⟩, ⟨.stopping, true⟩]
    Run (rollOutSuite (.external .standard)
        ⟨externalTransform, ⟨.external, .standard, false, 3⟩⟩ id)
        (⟨.get id, .ok desired⟩ :: ⟨.transform desired, .ok desired⟩ :: calls)
        (.ok (.failed true (.strategy id (.cancelled 0)))) ∧
      lastVerdict? calls = some (.ok ()) ∧
      ∃ v earlier, visits calls = v :: earlier ∧ v.ordinal = 1 ∧ v.Skipped := by
  intro id desired calls
  have hsuite : Run (rollOutSuite (.external .standard)
      ⟨externalTransform, ⟨.external, .standard, false, 3⟩⟩ id)
      (⟨.get id, .ok desired⟩ :: ⟨.transform desired, .ok desired⟩ :: calls)
      (.ok (.failed true (.strategy id (.cancelled 0)))) := by
    repeat apply Run.ask
    exact .done _
  have hwalk : Run ((⟨.external, .standard, false, 3⟩ : Strategy).rollOut (.external .standard) id
      desired) calls (.ok (desired, .failed true (.cancelled 0))) := by
    repeat apply Run.ask
    exact .done _
  refine ⟨hsuite, ?_, ?_⟩
  · rcases rollOut_skipSleep.2 _ _ hsuite with ⟨-, hlowered⟩ |
      ⟨_, _, _, _, passed, hes, hrun, hflag, -⟩
    · cases hlowered
    · cases hes
      exact (rollOut_skipSleep.1 _ _ _ _ hrun).verdict.1 hflag.symm
  · obtain ⟨-, -, habove⟩ := (rollOut_skipSleep.1 desired calls _ _ hwalk).before
      (.cancelled 0) 0 rfl rfl (by decide)
    obtain ⟨v, earlier, hvisits, hordinal, hskipped⟩ := habove (by decide)
    exact ⟨v, earlier, hvisits, hordinal, hskipped.1 rfl⟩

end PartitionedRollout
