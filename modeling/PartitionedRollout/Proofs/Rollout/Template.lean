/-
# PartitionedRollout.Proofs.Rollout.Template -- which template a rollout rolls out

The desired template travels in the working copy. After each ordinal the working copy is read anew,
and with it the template: from then on the rollout sends and verifies what the store held at that
moment. `templateAfter` is the template of the latest such reading, and every update and every
verification uses it. So a rollout keeps to the template that it was given exactly as long as
nobody else has changed the template when a set is read anew.
-/

import PartitionedRollout.Proofs.Rollout.Handler
import PartitionedRollout.Proofs.Rollout.Interleaving
import PartitionedRollout.Proofs.Rollout.Protocol

namespace PartitionedRollout

open Program Store

/-! ## The template in force -/

/-- What the calls of a rollout so far say about its template. -/
structure Course where
  /-- The template in force. -/
  template : Template
  /-- The last call was a check that succeeded, so that the set is read anew next. -/
  converged : Bool

/-- One more call. -/
def Course.next (c : Course) : Exchange → Course
  | ⟨.check _ _, some (.ok ())⟩ => ⟨c.template, true⟩
  | ⟨.get _, .ok latest⟩ => ⟨if c.converged then latest.spec.template else c.template, false⟩
  | _ => ⟨c.template, false⟩

/-- The template in force after some calls: that of the latest reading which followed a successful
check, or the first one. -/
def templateAfter (t : Template) (calls : List Exchange) : Template :=
  (calls.foldl Course.next ⟨t, false⟩).template

namespace Program.Exchange

/-- The set that an update sends. -/
def sent? : Exchange → Option WorkloadSet
  | ⟨.update w, _⟩ => some w
  | _ => none

/-- The working copy that a replica is compared with. -/
def verified? : Exchange → Option WorkloadSet
  | ⟨.verify _ w, _⟩ => some w
  | ⟨.check _ w, _⟩ => some w
  | _ => none

end Program.Exchange

/-- Every update carries a template, and every verification compares with its revision. -/
structure KeepsTemplate (t : Template) (calls : List Exchange) : Prop where
  sent : ∀ x ∈ calls, ∀ w, x.sent? = some w → w.spec.template = t
  verified : ∀ x ∈ calls, ∀ w, x.verified? = some w → w.updateRevision = t.revision

/-- The sets that are read anew leave a template in force: it is the one in force at every update,
and has the revision of the one in force at every verification. -/
structure KeptInForce (t : Template) (calls : List Exchange) : Prop where
  sent : ∀ pre x post, calls = pre ++ x :: post → x.sent?.isSome → templateAfter t pre = t
  verified : ∀ pre x post, calls = pre ++ x :: post → x.verified?.isSome →
    (templateAfter t pre).revision = t.revision

/-- The working copy at a stage has the template in force. -/
def Stage.Follows (c : Course) : Stage → Prop
  | .between _ w => c = ⟨w.spec.template, false⟩
  | .cleared _ w => c = ⟨w.spec.template, false⟩
  | .outdated _ w => c = ⟨w.spec.template, false⟩
  | .ready _ w _ _ => c = ⟨w.spec.template, false⟩
  | .refused _ w _ => c = ⟨w.spec.template, false⟩
  | .rested _ w _ => c = ⟨w.spec.template, false⟩
  | .polling _ _ w => c = ⟨w.spec.template, false⟩
  | .converged _ w => c = ⟨w.spec.template, true⟩
  | .reread _ w => c = ⟨w.spec.template, false⟩
  | .ended => True

section

variable {policy : ConflictRetry} {id : WorkloadId} {s u : Stage} {x : Exchange} {c : Course}
  {calls pre post : List Exchange}

/-- One call keeps the working copy on course. -/
theorem Move.follows (h : Move policy id s x u) (hs : s.Follows c) : u.Follows (c.next x) := by
  cases h with
  | interrupt | unready | reject | rouse | lose | giveUp | cut | wake | vanish | sicken => trivial
  | _ =>
    -- A reading after a conflict does not follow a check, so only the other one counts.
    obtain rfl := hs
    rfl

theorem Moves.follows (h : Moves policy id s calls u) (hs : s.Follows c) :
    u.Follows (calls.foldl Course.next c) := by
  induction h generalizing c with
  | nil => exact hs
  | cons head _ ih => exact ih (head.follows hs)

/-- An update sends the template in force. -/
theorem Move.sent_template (h : Move policy id s x u) (hs : s.Follows c) {w : WorkloadSet}
    (hw : x.sent? = some w) : w.spec.template = c.template := by
  cases h with
  | persist | conflict | reject =>
    obtain rfl := hs
    obtain rfl := Option.some.inj hw
    rfl
  | _ => cases hw

/-- A verification compares with the template in force. -/
theorem Move.verified_template (h : Move policy id s x u) (hs : s.Follows c) {w : WorkloadSet}
    (hw : x.verified? = some w) : w.spec.template = c.template := by
  cases h with
  | skip | begin | hit | miss | cut =>
    obtain rfl := hs
    obtain rfl := Option.some.inj hw
    rfl
  | _ => cases hw

/-- **The law of the template.** Whatever is sent or verified has the template in force. -/
theorem Moves.template_in_force {count : Nat} {working w : WorkloadSet}
    (h : Moves policy id (.between count working) (pre ++ x :: post) u)
    (hw : x.sent? = some w ∨ x.verified? = some w) :
    w.spec.template = templateAfter working.spec.template pre := by
  obtain ⟨r, t, hpre, hx, -⟩ := h.split
  have hr := hpre.follows (c := ⟨working.spec.template, false⟩) rfl
  rcases hw with hw | hw
  · exact hx.sent_template hr hw
  · exact hx.verified_template hr hw

/-- A rollout keeps a template exactly if what it reads anew leaves the template in force. -/
theorem Moves.keepsTemplate_iff {count : Nat} {working : WorkloadSet}
    (h : Moves policy id (.between count working) calls u) :
    KeepsTemplate working.spec.template calls ↔ KeptInForce working.spec.template calls := by
  constructor
  · rintro ⟨hsent, hverified⟩
    constructor
    · rintro pre x post rfl hx
      obtain ⟨w, hw⟩ := Option.isSome_iff_exists.1 hx
      rw [← h.template_in_force (.inl hw)]
      exact hsent x (by simp) w hw
    · rintro pre x post rfl hx
      obtain ⟨w, hw⟩ := Option.isSome_iff_exists.1 hx
      rw [← h.template_in_force (.inr hw)]
      exact hverified x (by simp) w hw
  · rintro ⟨hsent, hverified⟩
    constructor
    · intro x hx w hw
      obtain ⟨pre, post, rfl⟩ := List.append_of_mem hx
      rw [h.template_in_force (.inl hw)]
      exact hsent pre x post rfl (by simp [hw])
    · intro x hx w hw
      obtain ⟨pre, post, rfl⟩ := List.append_of_mem hx
      rw [WorkloadSet.updateRevision, h.template_in_force (.inr hw)]
      exact hverified pre x post rfl (by simp [hw])

end

/-- **The template of a rollout.** A run with the verifier that compares revisions is one with an
outside verifier whose questions are answered by it. After the transform, every update and every
verification has the template of the latest reading that followed a successful check, or that of
the transform before the first one. So the rollout keeps the template of the transform exactly if
these readings leave it in force. -/
theorem rollOutSuite_keeps_template_iff {retry : ConflictRetry} {jitter : Bool} {rounds : Nat}
    {timing : Timing} {id : WorkloadId} {es : List Exchange} {e : Ending Outcome}
    (h : Run (rollOutSuite (.external timing)
      ⟨externalTransform, ⟨.revision, retry, jitter, rounds⟩⟩ id) es e) :
    (∃ calls, Expands (Verifier.revision.answers id) calls es ∧
      Run (rollOutSuite (.external timing)
        ⟨externalTransform, ⟨.external, retry, jitter, rounds⟩⟩ id) calls e) ∧
    ∀ current desired rest, Run (rollOutSuite (.external timing)
        ⟨externalTransform, ⟨.external, retry, jitter, rounds⟩⟩ id)
        (⟨.get id, .ok current⟩ :: ⟨.transform current, .ok desired⟩ :: rest) e →
      (∀ pre x post w, rest = pre ++ x :: post → x.sent? = some w ∨ x.verified? = some w →
        w.spec.template = templateAfter desired.spec.template pre) ∧
      (KeepsTemplate desired.spec.template rest ↔ KeptInForce desired.spec.template rest) := by
  constructor
  · rw [← handle_rollOutSuite, run_handle_iff (revision_answers_halt id)] at h
    obtain ⟨calls, hrun, hexpands⟩ := h
    exact ⟨calls, hexpands, hrun⟩
  · intro current desired rest hrun
    obtain ⟨t, hm⟩ : ∃ t, Moves retry id (.between desired.spec.replicas.toNat desired) rest t := by
      rcases run_rollOutSuite hrun with ⟨cause, heq, -⟩ | ⟨current', cause, heq, -⟩ |
        ⟨current', desired', rest', ending, heq, hroll, -⟩
      · cases heq
      · cases heq
      · cases heq
        obtain ⟨t, hm, -⟩ := run_rollOut hroll
        exact ⟨t, hm⟩
    refine ⟨?_, hm.keepsTemplate_iff⟩
    rintro pre x post w rfl hw
    exact hm.template_in_force hw

/-! ## A template that changes under way -/

namespace Drift

/-- The set that is rolled out. -/
def id : WorkloadId :=
  ⟨"db", "a"⟩

/-- The set as it is stored at first: two replicas, of which nothing has been reported. -/
def start : WorkloadSet :=
  putOver none (.ofSpec id 2 (.ofImage "v1"))

/-- What the transform asks for. -/
def desired : WorkloadSet :=
  start.withTemplate (.ofImage "v2")

/-- The update of ordinal one. -/
def sentFirst : WorkloadSet :=
  desired.withPartition 1

/-- The set with this update. -/
def storedFirst : WorkloadSet :=
  withSpec start sentFirst.spec

/-- The report that replica one runs what was asked for. -/
def report (s : WorkloadStatus) : WorkloadStatus :=
  ⟨s.observedGeneration, [⟨1, (Template.ofImage "v2").revision, true, none⟩]⟩

/-- The set with the report. -/
def reported : WorkloadSet :=
  withStatus storedFirst report

/-- What another client asks for meanwhile. -/
def wanted : WorkloadSet :=
  reported.withTemplate (.ofImage "v3")

/-- The set with that. -/
def changed : WorkloadSet :=
  withSpec reported wanted.spec

/-- The update of ordinal zero. -/
def sentSecond : WorkloadSet :=
  changed.withPartition 0

/-- The set with this update. -/
def storedSecond : WorkloadSet :=
  withSpec changed sentSecond.spec

/-- The calls after the transform, with the questions to the verifier. -/
def calls : List Exchange :=
  [⟨.stopping, false⟩,
    ⟨.verify 1 desired, .error (.plain "replica 1 of db/a has not reported status")⟩,
    ⟨.awaitReady, .ok ()⟩, ⟨.update sentFirst, .ok storedFirst⟩, ⟨.now, .zero⟩,
    ⟨.stopping, false⟩, ⟨.check 1 sentFirst, some (.ok ())⟩, ⟨.get id, .ok changed⟩,
    ⟨.probeHealth (Strategy.checkpoint id) 1, .ok ()⟩, ⟨.stopping, false⟩,
    ⟨.verify 0 changed, .error (.plain "replica 0 of db/a has not reported status")⟩,
    ⟨.awaitReady, .ok ()⟩, ⟨.update sentSecond, .ok storedSecond⟩, ⟨.now, .zero⟩,
    ⟨.stopping, true⟩]

/-- The whole history: the other clients write between the update of ordinal one and its check. -/
def history : List StoreEvent :=
  [.own ⟨.get id, .ok start⟩, .own ⟨.transform start, .ok desired⟩, .own ⟨.stopping, false⟩,
    .own ⟨.get id, .ok start⟩, .own ⟨.awaitReady, .ok ()⟩,
    .own ⟨.update sentFirst, .ok storedFirst⟩,
    .foreign ⟨.updateStatus id report, .stored reported⟩,
    .foreign ⟨.update wanted, .stored changed⟩, .own ⟨.now, .zero⟩, .own ⟨.stopping, false⟩,
    .own ⟨.get id, .ok changed⟩, .own ⟨.get id, .ok changed⟩,
    .own ⟨.probeHealth (Strategy.checkpoint id) 1, .ok ()⟩, .own ⟨.stopping, false⟩,
    .own ⟨.get id, .ok changed⟩, .own ⟨.awaitReady, .ok ()⟩,
    .own ⟨.update sentSecond, .ok storedSecond⟩, .own ⟨.now, .zero⟩, .own ⟨.stopping, true⟩]

theorem run_calls :
    Run (rollOutSuite (.external .standard)
        ⟨externalTransform, ⟨.external, .standard, false, 3⟩⟩ id)
      (⟨.get id, .ok start⟩ :: ⟨.transform start, .ok desired⟩ :: calls)
      (.ok (.failed false (.strategy id (.cancelled 0)))) := by
  repeat apply Run.ask
  exact .done _

/-- The questions to the verifier are answered by what the store holds. -/
theorem expands_history :
    Expands (Verifier.revision.answers id)
      (⟨.get id, .ok start⟩ :: ⟨.transform start, .ok desired⟩ :: calls) (owned history) := by
  have hconverged : changed.status.converged id sentFirst.updateRevision 1 = .ok () := by
    simp [WorkloadStatus.converged, WorkloadStatus.replica?, changed, withSpec, reported,
      withStatus, report, WorkloadSet.updateRevision, sentFirst, desired,
      WorkloadSet.withPartition, WorkloadSet.withTemplate]
  have hcheck : Run (Verifier.revision.answers id (.check 1 sentFirst)) [⟨.get id, .ok changed⟩]
      (.ok (some (.ok ()))) :=
    run_checkRevision_iff.2 ⟨.ok changed, rfl, congrArg (Except.ok ∘ some) hconverged.symm⟩
  have hfirst : Run (Verifier.revision.answers id (.verify 1 desired)) [⟨.get id, .ok start⟩]
      (.ok (.error (.plain "replica 1 of db/a has not reported status"))) :=
    run_verifyRevision _ id 1 start
  have hsecond : Run (Verifier.revision.answers id (.verify 0 changed)) [⟨.get id, .ok changed⟩]
      (.ok (.error (.plain "replica 0 of db/a has not reported status"))) :=
    run_verifyRevision _ id 0 changed
  exact .cons_call rfl <| .cons_call rfl <| .cons_call rfl <| .cons_one hfirst <| .cons_call rfl <|
    .cons_call rfl <| .cons_call rfl <| .cons_call rfl <| .cons_one hcheck <| .cons_call rfl <|
    .cons_call rfl <| .cons_call rfl <| .cons_one hsecond <| .cons_call rfl <| .cons_call rfl <|
    .cons_call rfl <| .cons_call rfl .nil

/-- Every answer in the history is the one of the store. -/
theorem interleaved_history :
    Interleaved .memory (Store.empty.write "db/a" start) history
      ((((Store.empty.write "db/a" start).write "db/a" storedFirst).write "db/a" reported).write
        "db/a" changed |>.write "db/a" storedSecond) := by
  let s₀ := Store.empty.write "db/a" start
  let s₁ := s₀.write "db/a" storedFirst
  let s₂ := s₁.write "db/a" reported
  let s₃ := s₂.write "db/a" changed
  have hentry₀ : s₀.entry "db/a" = .ok (some start) := by simp [s₀]
  have hentry₁ : s₁.entry "db/a" = .ok (some storedFirst) := by simp [s₁]
  have hentry₂ : s₂.entry "db/a" = .ok (some reported) := by simp [s₂]
  have hentry₃ : s₃.entry "db/a" = .ok (some changed) := by simp [s₃]
  have hget₀ : s₀.get id = .ok start := get_eq_ok_iff.2 hentry₀
  have hget₃ : s₃.get id = .ok changed := get_eq_ok_iff.2 hentry₃
  have hfirst : s₀.update sentFirst = .ok (storedFirst, s₁) :=
    update_eq_ok_iff.2 ⟨by decide, start, hentry₀, rfl, rfl, rfl⟩
  have hreport : s₁.perform .memory (.updateStatus id report) = (.stored reported, s₂) :=
    answerWrite_of_ok (updateStatus_eq_ok_iff.2 ⟨storedFirst, hentry₁, rfl, rfl⟩)
  have hchange : s₂.perform .memory (.update wanted) = (.stored changed, s₃) :=
    answerWrite_of_ok (update_eq_ok_iff.2 ⟨by decide, reported, hentry₂, rfl, rfl, rfl⟩)
  have hsecond : s₃.update sentSecond = .ok (storedSecond, s₃.write "db/a" storedSecond) :=
    update_eq_ok_iff.2 ⟨by decide, changed, hentry₃, rfl, rfl, rfl⟩
  exact .own ⟨hget₀.symm, rfl⟩ <| .own rfl <| .own rfl <| .own ⟨hget₀.symm, rfl⟩ <| .own rfl <|
    .own hfirst <| .foreign trivial hreport <| .foreign trivial hchange <| .own rfl <| .own rfl <|
    .own ⟨hget₃.symm, rfl⟩ <| .own ⟨hget₃.symm, rfl⟩ <| .own rfl <| .own rfl <|
    .own ⟨hget₃.symm, rfl⟩ <| .own rfl <| .own hsecond <| .own rfl <| .own rfl .nil

theorem run_history :
    Run (rollOutSuite (.external .standard)
        ⟨externalTransform, ⟨.revision, .standard, false, 3⟩⟩ id)
      (owned history) (.ok (.failed false (.strategy id (.cancelled 0)))) := by
  rw [← handle_rollOutSuite, run_handle_iff (revision_answers_halt id)]
  exact ⟨_, run_calls, expands_history⟩

end Drift

/-- Here the template is not left in force: what was read anew after ordinal one has another. -/
theorem rollOutSuite_keeps_template_iff_drift :
    ¬ KeepsTemplate Drift.desired.spec.template Drift.calls := by
  rw [((rollOutSuite_keeps_template_iff Drift.run_history).2 _ _ _ Drift.run_calls).2]
  intro hkept
  have hforce := hkept.sent (Drift.calls.take 12) _ (Drift.calls.drop 13) rfl rfl
  exact absurd hforce (by decide)

/-- **A rollout can send a template that it was not given.** Another client replaces the template
while ordinal one converges, and ordinal zero is updated to the other template. -/
theorem rollOutSuite_adopts_template :
    ∃ s events s' e current desired sent reply, Interleaved .memory s events s' ∧
      Run (rollOutSuite (.external .standard)
        ⟨externalTransform, ⟨.revision, .standard, false, 3⟩⟩ ⟨"db", "a"⟩) (owned events) e ∧
      ⟨.transform current, .ok desired⟩ ∈ owned events ∧ ⟨.update sent, reply⟩ ∈ owned events ∧
      sent.spec.template ≠ desired.spec.template := by
  refine ⟨_, Drift.history, _, _, Drift.start, Drift.desired, Drift.sentSecond,
    .ok Drift.storedSecond, Drift.interleaved_history, Drift.run_history, ?_, ?_, by decide⟩
  · simp [Drift.history]
  · simp [Drift.history]

end PartitionedRollout
