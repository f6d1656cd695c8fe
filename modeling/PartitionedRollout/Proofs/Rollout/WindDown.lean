/-
# PartitionedRollout.Proofs.Rollout.WindDown -- what a rollout still does once it is told to stop

The shutdown signal may come up at any moment of a run, and several steps do not look at it: the
reads, the update, the health requests, and whatever lies between two looks. So a rollout does not
stop at once. `Stage.Settles` says at which stages it can be when the signal comes up, and how much
it may still do from there: it finishes with the ordinal that is being handled, starts at most one
more update of it, and reaches a look or a wait. Moments inside of a gate are covered by splitting
the run into errands.

That the run then ends is a statement about the loops. A loop that uses up its rounds has waited as
often, and once the signal is up nothing waits any more. What it means that the signal is up, `Told`,
is not only assumed: it follows for the sleep of a simulated cluster in which nobody withdraws it.
-/

import PartitionedRollout.Proofs.Rollout.BlastRadius
import PartitionedRollout.Proofs.Rollout.Interruption
import PartitionedRollout.Proofs.Rollout.Rehearsal

namespace PartitionedRollout

open Program

/-! ## The signal is up -/

/-- The request is an update. -/
def Request.isUpdate : Request → Bool
  | .update _ => true
  | _ => false

/-- The request has a replica verified. -/
def Request.verifies : Request → Bool
  | .verify _ _ => true
  | .check _ _ => true
  | _ => false

/-- The signal is up: every look and every wait notices it. -/
def Program.Told (es : List Exchange) : Prop :=
  ∀ x ∈ es, x.request.heeds = true → x.Noticed

/-- In a simulated cluster that has told a rollout to stop, a look notices it, and so does a wait,
for which no time passes. -/
theorem Cluster.noticed_of_stop {cluster : Cluster} (h : cluster.signal.stop = true) {r : Request}
    (hr : r.heeds = true) :
    Exchange.Noticed ⟨r, (cluster.answer r).1⟩ ∧ (cluster.answer r).2 = cluster := by
  cases r with
  | stopping => exact ⟨h, rfl⟩
  | sleep d => simp [Exchange.Noticed, Cluster.answer, Cluster.waitFor, Cluster.waitUntil, h]
  | _ => cases hr

/-- So does every look and every wait to come, if nobody withdraws the signal. The cluster is left as
it was, and so is its clock. -/
theorem Cluster.KeepsStop.heeded {cluster final : Cluster} {before after : List Exchange}
    {x : Exchange} (h : cluster.KeepsStop)
    (htraced : Traced Cluster.answer cluster (before ++ x :: after) final)
    (hx : x.request.heeds = true) :
    x.Noticed ∧ ∃ u, Traced Cluster.answer cluster before u ∧ Traced Cluster.answer u after final := by
  obtain ⟨u, hbefore, hreply, hafter⟩ := Traced.append_iff.1 htraced
  have hu : u.KeepsStop := hbefore.preserves (fun _ r hc => hc.answer r) h
  obtain ⟨r, reply⟩ := x
  obtain rfl : reply = (u.answer r).1 := hreply
  obtain ⟨hnoticed, hsame⟩ := noticed_of_stop hu.stop hx
  rw [hsame] at hafter
  exact ⟨hnoticed, u, hbefore, hafter⟩

/-- Along a trace the signal is up. -/
theorem Cluster.KeepsStop.told {cluster final : Cluster} {es : List Exchange}
    (h : cluster.KeepsStop) (htraced : Traced Cluster.answer cluster es final) : Told es := by
  intro x hx hheeds
  obtain ⟨before, after, rfl⟩ := List.append_of_mem hx
  exact (h.heeded htraced hheeds).1

/-- What may still be asked once the signal is up: nothing is verified, and what is done is done for
the ordinal that is being handled. -/
def Request.Permitted (handled : Option UInt32) : Request → Prop
  | .verify _ _ => False
  | .check _ _ => False
  | .awaitReady => ∃ p, handled = some p
  | .update w => ∃ p, w.spec.partition = some p ∧ handled = some p
  | .probeHealth _ p => handled = some p
  | _ => True

/-- The requests that a rollout still makes. -/
structure WindsDown (handled : Option UInt32) (later : List Request) : Prop where
  /-- Each is permitted. -/
  permitted : ∀ r ∈ later, r.Permitted handled
  /-- At most one is an update. -/
  updates : later.countP Request.isUpdate ≤ 1

/-- Where a rollout of `count` replicas can be when the signal is up, `handled` being the ordinal
that is handled. A look just made would have ended the rollout, so it is not about to verify
anything. -/
def Stage.Settles (count : Nat) (handled : Option UInt32) : Stage → Prop
  | .between left _ => handled = some (.ofNat left) ∨ handled = none ∧ left = count
  | .cleared _ _ => False
  | .outdated p _ => handled = some (.ofNat p)
  | .ready p .. => handled = some (.ofNat p)
  | .refused p .. => handled = some (.ofNat p)
  | .rested p .. => handled = some (.ofNat p)
  | .polling phase p _ => phase ≠ .check ∧ handled = some (.ofNat p)
  | .converged p _ => handled = some (.ofNat p)
  | .reread p _ => handled = some (.ofNat p)
  | .ended => True

/-- The updates that may still be started once the signal is up. -/
def Stage.allowance : Stage → Nat
  | .outdated _ _ => 1
  | .ready .. => 1
  | .rested .. => 1
  | _ => 0

theorem Stage.allowance_le_one (s : Stage) : s.allowance ≤ 1 := by
  cases s <;> simp [Stage.allowance]

section

variable {policy : ConflictRetry} {id : WorkloadId} {s t : Stage} {x : Exchange}
  {es : List Exchange} {count : Nat} {handled : Option UInt32}

/-- With the signal up, a call keeps the rollout with the ordinal that is handled. -/
theorem Move.settles (h : Move policy id s x t) (hs : s.Settles count handled)
    (hx : x.request.heeds = true → x.Noticed) :
    t.Settles count handled ∧ x.request.Permitted handled ∧
      t.allowance + (if x.request.isUpdate then 1 else 0) ≤ s.allowance := by
  cases h with
  | proceed | rest | goOn | pause =>
    -- A look or a wait that did not notice the signal.
    exact absurd (hx rfl) (by simp [Exchange.Noticed])
  | skip | begin => exact hs.elim
  | hit | miss | cut => exact absurd rfl hs.1
  | interrupt | rouse | lose | giveUp | wake | vanish => exact ⟨trivial, trivial, Nat.zero_le _⟩
  | allow => exact ⟨hs, ⟨_, hs⟩, Nat.le_refl _⟩
  | unready => exact ⟨trivial, ⟨_, hs⟩, Nat.zero_le _⟩
  | persist => exact ⟨⟨by simp, hs⟩, ⟨_, rfl, hs⟩, Nat.le_refl _⟩
  | conflict => exact ⟨hs, ⟨_, rfl, hs⟩, Nat.le_refl _⟩
  | reject => exact ⟨trivial, ⟨_, rfl, hs⟩, Nat.le_refl _⟩
  | retry | reread => exact ⟨hs, trivial, Nat.le_refl _⟩
  | start | measure | draw => exact ⟨⟨by simp, hs.2⟩, trivial, Nat.le_refl _⟩
  | finish => exact ⟨.inl hs, hs, Nat.le_refl _⟩
  | sicken => exact ⟨trivial, hs, Nat.le_refl _⟩

/-- So does a row of calls. -/
theorem Moves.settles (h : Moves policy id s es t) (hs : s.Settles count handled) (hes : Told es) :
    t.Settles count handled ∧ (∀ x ∈ es, x.request.Permitted handled) ∧
      t.allowance + (es.map Exchange.request).countP Request.isUpdate ≤ s.allowance := by
  induction h with
  | nil => exact ⟨hs, by simp, Nat.le_refl _⟩
  | @cons s r u x es head tail ih =>
    obtain ⟨hx, hes⟩ := List.forall_mem_cons.1 hes
    obtain ⟨hr, hpermitted, hle⟩ := head.settles hs hx
    obtain ⟨hu, hall, hrest⟩ := ih hr hes
    refine ⟨hu, List.forall_mem_cons.2 ⟨hpermitted, hall⟩, ?_⟩
    rw [List.map_cons, List.countP_cons]
    omega

/-- The calls after which a rollout is about to verify something end with a look. -/
theorem Moves.look_of_clear {w : WorkloadSet} {calls : List Exchange}
    (h : Moves policy id (.between count w) calls s)
    (hs : (∃ p w, s = .cleared p w) ∨ ∃ p w, s = .polling .check p w) :
    ∃ before, calls = before ++ [⟨.stopping, false⟩] := by
  rcases List.eq_nil_or_concat calls with rfl | ⟨before, x, rfl⟩
  · obtain rfl := Moves.nil_iff.1 h
    rcases hs with ⟨_, _, ⟨⟩⟩ | ⟨_, _, ⟨⟩⟩
  · rw [List.concat_eq_append] at h ⊢
    obtain ⟨r, -, hlast⟩ := Moves.append_iff.1 h
    obtain ⟨u, hmove, hnil⟩ := Moves.cons_iff.1 hlast
    obtain rfl := Moves.nil_iff.1 hnil
    refine ⟨before, ?_⟩
    rcases hs with ⟨p, w, rfl⟩ | ⟨p, w, rfl⟩ <;> cases hmove <;> rfl

end

/-! ## The ordinal that is handled -/

theorem handling?_eq_head (es : List Exchange) :
    handling? es = (visits es).head?.map Visit.ordinal := by
  rw [← List.head?_map, map_ordinal_visits, List.head?_reverse]
  rfl

/-- Unless the rollout has just looked at the signal, it is at a stage at which it settles. -/
theorem Moves.settles_handling {policy : ConflictRetry} {id : WorkloadId} {replicas : UInt32}
    {w : WorkloadSet} {es : List Exchange} {s : Stage}
    (h : Moves policy id (.between replicas.toNat w) es s)
    (hlook : ∀ before, es ≠ before ++ [⟨.stopping, false⟩]) :
    s.Settles replicas.toNat (handling? es) := by
  rw [handling?_eq_head]
  have hcurrent : ∀ p, s.updating? = some p →
      (visits es).head?.map Visit.ordinal = some (.ofNat p) := by
    intro p hp
    obtain ⟨cause, calls, earlier, hvisits, -⟩ := h.fits.current hp
    rw [hvisits]
    rfl
  have hclear : ¬ ((∃ p w, s = .cleared p w) ∨ ∃ p w, s = .polling .check p w) := by
    intro hs
    obtain ⟨before, hes⟩ := h.look_of_clear hs
    exact hlook before hes
  cases s with
  | between left working =>
    have hcovers := h.fits.covers_of_between
    generalize visits es = vs at hcovers ⊢
    cases hcovers with
    | nil => exact .inr ⟨rfl, rfl⟩
    | cons ordinal _ _ => exact .inl (congrArg some ordinal)
  | cleared p working => exact hclear (.inl ⟨p, working, rfl⟩)
  | polling phase p working =>
    refine ⟨?_, hcurrent p rfl⟩
    rintro rfl
    exact hclear (.inr ⟨p, working, rfl⟩)
  | ended => trivial
  | _ => exact hcurrent _ rfl

theorem WindsDown.cons {handled : Option UInt32} {r : Request} {later : List Request}
    (hr : r.Permitted handled) (hupdate : r.isUpdate = false) (h : WindsDown handled later) :
    WindsDown handled (r :: later) := by
  refine ⟨List.forall_mem_cons.2 ⟨hr, h.permitted⟩, ?_⟩
  rw [List.countP_cons_of_neg (by simp [hupdate])]
  exact h.updates

theorem WindsDown.of_append {handled : Option UInt32} {later more : List Request}
    (h : WindsDown handled (later ++ more)) : WindsDown handled later := by
  obtain ⟨hpermitted, hupdates⟩ := h
  rw [List.countP_append] at hupdates
  exact ⟨fun r hr => hpermitted r (List.mem_append_left more hr), Nat.le_of_add_right_le hupdates⟩

/-- Requests that are no updates. -/
theorem WindsDown.of_idle {handled : Option UInt32} {later : List Request}
    (h : ∀ r ∈ later, r.Permitted handled ∧ r.isUpdate = false) : WindsDown handled later := by
  refine ⟨fun r hr => (h r hr).1, ?_⟩
  have hnone : later.countP Request.isUpdate = 0 :=
    List.countP_eq_zero.2 fun r hr => by simp [(h r hr).2]
  exact hnone ▸ Nat.zero_le 1

/-- A rollout is completed although the signal came up only if nothing was left to begin. -/
def LastHandled (handled : Option UInt32) (replicas : UInt32) : Prop :=
  handled = some 0 ∨ handled = none ∧ replicas = 0

/-- A rollout with outside collaborators winds down from every moment but the one after a look. -/
theorem run_rollOut_winds_down {retry : ConflictRetry} {jitter : Bool} {rounds : Nat}
    {timing : Timing} {id : WorkloadId} {working : WorkloadSet} {begun later : List Exchange}
    {e : Ending (WorkloadSet × Outcome)}
    (h : Run ((⟨.external, retry, jitter, rounds⟩ : Strategy).rollOut (.external timing) id working)
      (begun ++ later) e)
    (hlook : ∀ before, begun ≠ before ++ [⟨.stopping, false⟩]) (htold : Told later) :
    WindsDown (handling? begun) (later.map Exchange.request) ∧
      (Completed e → LastHandled (handling? begun) working.spec.replicas) := by
  obtain ⟨t, hmoves, hcompleted⟩ := run_rollOut h
  obtain ⟨s, hbegun, hlater⟩ := Moves.append_iff.1 hmoves
  obtain ⟨ht, hpermitted, hupdates⟩ := hlater.settles (hbegun.settles_handling hlook) htold
  refine ⟨⟨?_, ?_⟩, ?_⟩
  · intro r hr
    obtain ⟨x, hx, rfl⟩ := List.mem_map.1 hr
    exact hpermitted x hx
  · exact Nat.le_trans (Nat.le_of_add_left_le hupdates) s.allowance_le_one
  · rintro ⟨latest, o, he, ho⟩
    obtain rfl := hcompleted latest o he ho
    rcases ht with hhandled | ⟨hhandled, hcount⟩
    · exact .inl hhandled
    · exact .inr ⟨hhandled, UInt32.toNat_inj.1 hcount.symm⟩

/-- So does a suite, whose first two calls look at nothing. -/
theorem run_rollOutSuite_winds_down {retry : ConflictRetry} {jitter : Bool} {rounds : Nat}
    {timing : Timing} {id : WorkloadId} {begun later : List Exchange} {e : Ending Outcome}
    (h : Run (rollOutSuite (.external timing)
      ⟨externalTransform, ⟨.external, retry, jitter, rounds⟩⟩ id) (begun ++ later) e)
    (hlook : ∀ before, begun ≠ before ++ [⟨.stopping, false⟩]) (htold : Told later) :
    WindsDown (handling? begun) (later.map Exchange.request) ∧
      ∀ skipped, e = .ok (.completed skipped) → ∃ current desired,
        ⟨.transform current, .ok desired⟩ ∈ begun ++ later ∧
        LastHandled (handling? begun) desired.spec.replicas := by
  -- A suite that ends before the rollout only reads and computes.
  have hidle : (∀ x ∈ begun ++ later, x.request = .get id ∨ ∃ w, x.request = .transform w) →
      WindsDown (handling? begun) (later.map Exchange.request) := by
    intro hall
    refine .of_idle ?_
    intro r hr
    obtain ⟨x, hx, rfl⟩ := List.mem_map.1 hr
    rcases hall x (List.mem_append_right begun hx) with hr | ⟨w, hr⟩ <;> exact hr ▸ ⟨trivial, rfl⟩
  rcases run_rollOutSuite h with ⟨cause, hes, rfl⟩ | ⟨current, cause, hes, rfl⟩ |
    ⟨current, desired, rest, ending, hes, hrun, he⟩
  · exact ⟨hidle (by simp [hes]), by rintro _ ⟨⟩⟩
  · exact ⟨hidle (by simp [hes]), by rintro _ ⟨⟩⟩
  have hcompleted : ∀ skipped, e = .ok (.completed skipped) → Completed ending := by
    rintro skipped rfl
    obtain ⟨latest, rfl⟩ := map_inStrategy_eq_completed.1 he.symm
    exact ⟨latest, _, rfl, rfl⟩
  have htransform : ⟨.transform current, .ok desired⟩ ∈ begun ++ later := by
    rw [hes]
    exact List.mem_cons_of_mem _ List.mem_cons_self
  suffices WindsDown (handling? begun) (later.map Exchange.request) ∧
      (Completed ending → LastHandled (handling? begun) desired.spec.replicas) from
    ⟨this.1, fun skipped he => ⟨current, desired, htransform, this.2 (hcompleted skipped he)⟩⟩
  -- The moment comes before the set is read, before the desired set is computed, or later.
  match begun, hes with
  | [], hes =>
    obtain rfl : later = _ := hes
    obtain ⟨hwinds, hlast⟩ := run_rollOut_winds_down (show Run _ ([] ++ rest) ending from hrun)
      hlook fun x hx => htold x (List.mem_cons_of_mem _ (List.mem_cons_of_mem _ hx))
    exact ⟨.cons trivial rfl (.cons trivial rfl hwinds), hlast⟩
  | [x], hes =>
    obtain ⟨rfl, rfl⟩ := List.cons.inj hes
    obtain ⟨hwinds, hlast⟩ := run_rollOut_winds_down (show Run _ ([] ++ rest) ending from hrun)
      (by simp) fun x hx => htold x (List.mem_cons_of_mem _ hx)
    exact ⟨.cons trivial rfl hwinds, hlast⟩
  | x :: y :: front, hes =>
    obtain ⟨rfl, htail⟩ := List.cons.inj hes
    obtain ⟨rfl, rfl⟩ := List.cons.inj htail
    have hfront : ∀ before, front ≠ before ++ [⟨.stopping, false⟩] := by
      rintro before rfl
      exact hlook (_ :: _ :: before) rfl
    -- The first two calls are none of those that decide which ordinal is handled.
    have hwinds :=
      run_rollOut_winds_down (show Run _ (front ++ later) ending from hrun) hfront htold
    exact hwinds

/-- A look that did not notice the signal clears a verification. -/
theorem run_rollOutSuite_cleared {retry : ConflictRetry} {jitter : Bool} {rounds : Nat}
    {timing : Timing} {id : WorkloadId} {pre post : List Exchange} {e : Ending Outcome}
    (h : Run (rollOutSuite (.external timing)
      ⟨externalTransform, ⟨.external, retry, jitter, rounds⟩⟩ id)
      (pre ++ ⟨.stopping, false⟩ :: post) e) :
    (post = [] ∧ ∀ skipped, e ≠ .ok (.completed skipped)) ∨
      ∃ x rest, post = x :: rest ∧ x.request.verifies = true := by
  obtain ⟨current, desired, front, ending, rfl, hrun, rfl⟩ :=
    run_rollOutSuite_split h (by simp) (by simp)
  obtain ⟨t, hmoves, hcompleted⟩ := run_rollOut hrun
  obtain ⟨r, u, -, hlook, hpost⟩ := hmoves.split
  cases post with
  | nil =>
    obtain rfl := Moves.nil_iff.1 hpost
    refine .inl ⟨rfl, ?_⟩
    intro skipped he
    obtain ⟨latest, rfl⟩ := map_inStrategy_eq_completed.1 he
    obtain rfl := hcompleted latest _ rfl rfl
    cases hlook
  | cons x rest =>
    obtain ⟨v, hx, -⟩ := Moves.cons_iff.1 hpost
    refine .inr ⟨x, rest, rfl, ?_⟩
    cases hlook with
    | proceed => cases hx <;> rfl
    | goOn =>
      cases hx with
      | pause hphase => simp at hphase
      | wake hphase => simp at hphase
      | _ => rfl

/-! ## Updates -/

theorem Program.Exchange.isUpdate_eq (x : Exchange) : x.isUpdate = x.request.isUpdate := by
  obtain ⟨r, reply⟩ := x
  cases r <;> rfl

theorem countP_isUpdate_eq_zero {es : List Exchange} (h : ∀ x ∈ es, x.request.LooksOn) :
    es.countP Exchange.isUpdate = 0 := by
  refine List.countP_eq_zero.2 ?_
  intro x hx
  rw [Exchange.isUpdate_eq]
  have hlooks := h x hx
  revert hlooks
  cases x.request <;> simp [Request.LooksOn, Request.isUpdate]

section

variable {c : ClusterGates} {id : WorkloadId}

namespace Program.Errands

variable {α : Type} {p : Program α} {errands : List Errand} {e : Ending α} {d : Errand}

/-- The updates of some errands are those that the rollout asked for. -/
theorem countP_isUpdate (h : Errands (c.gates.answers .revision id) p errands e)
    {later : List Errand} (hlater : ∀ d ∈ later, d ∈ errands) :
    (later.flatMap Errand.calls).countP Exchange.isUpdate =
      (later.map Errand.request).countP Request.isUpdate := by
  induction later with
  | nil => rfl
  | cons d later ih =>
    obtain ⟨hd, hlater⟩ := List.forall_mem_cons.1 hlater
    rw [List.flatMap_cons, List.countP_append, ih hlater, List.map_cons, List.countP_cons,
      Nat.add_comm]
    congr 1
    cases hdirect : d.request.isDirect with
    | true =>
      rw [h.calls_of_direct hd hdirect, List.countP_singleton, Exchange.isUpdate_eq]
      rfl
    | false =>
      rw [countP_isUpdate_eq_zero (h.looksOn hd hdirect), if_neg]
      revert hdirect
      cases d.request <;> simp [Request.isDirect, Request.isUpdate]

/-- The updates that are still to come at a moment are those of the later errands. -/
theorem countP_post (h : Errands (c.gates.answers .revision id) p errands e)
    {pre post : List Exchange} {begun later : List Errand} (herrands : errands = begun ++ later)
    (hmoment : Parted pre post begun later) :
    post.countP Exchange.isUpdate = (later.map Errand.request).countP Request.isUpdate := by
  subst herrands
  obtain ⟨rest, rfl, hrest⟩ := hmoment.exists_rest
  suffices rest.countP Exchange.isUpdate = 0 by
    rw [List.countP_append, this, Nat.zero_add]
    exact h.countP_isUpdate fun d hd => List.mem_append_right begun hd
  rcases hrest with rfl | ⟨d, hd, part, hpart, hcalls⟩
  · rfl
  have hd := List.mem_append_left later hd
  cases hdirect : d.request.isDirect with
  | true =>
    -- The errand is one call, and that one has happened.
    rw [h.calls_of_direct hd hdirect] at hcalls
    rcases List.singleton_eq_append_iff.1 hcalls with ⟨rfl, -⟩ | ⟨-, rfl⟩
    · exact absurd rfl hpart
    · rfl
  | false =>
    refine countP_isUpdate_eq_zero ?_
    intro x hx
    exact h.looksOn hd hdirect x (hcalls ▸ List.mem_append_right part hx)

/-- The signal is up for the calls that are later errands of the rollout itself. -/
theorem told (h : Errands (c.gates.answers .revision id) p errands e) {later : List Errand}
    (hlater : ∀ d ∈ later, d ∈ errands) (htold : Told (later.flatMap Errand.calls)) :
    Told (later.map Errand.exchange) := by
  intro x hx hheeds
  obtain ⟨d, hd, rfl⟩ := List.mem_map.1 hx
  have hdirect : d.request.isDirect = true := by
    have hheeds : d.request.heeds = true := hheeds
    revert hheeds
    cases d.request <;> simp [Request.isDirect, Request.heeds]
  refine htold d.exchange (List.mem_flatMap.2 ⟨d, hd, ?_⟩) hheeds
  rw [h.calls_of_direct (hlater d hd) hdirect]
  exact List.mem_singleton_self _

end Program.Errands

end

/-! ## Moments of a rollout -/

/-- A verification that a look has just cleared is as good as begun, as there is nothing between the
two that could notice the signal. -/
def Clears (begun cleared : List Errand) : Prop :=
  cleared = [] ∨ ∃ before look d, begun = before ++ [look] ∧ look.request = .stopping ∧
    cleared = [d] ∧ d.request.verifies = true

/-- The errands of a run at a moment at which the signal comes up and stays up. Those of `later` are
begun afterwards. -/
structure WindingDown (c : ClusterGates) (retry : ConflictRetry) (jitter : Bool) (id : WorkloadId)
    (pre post : List Exchange) (e : Ending Outcome) (begun cleared later : List Errand) : Prop where
  /-- They are the errands of the run. -/
  errands : Errands (c.gates.answers .revision id) (rollOutSuite (.external c.timing)
    ⟨externalTransform, ⟨.external, retry, jitter, c.rounds⟩⟩ id) (begun ++ cleared ++ later) e
  /-- They fall around the moment. -/
  moment : Parted pre post begun (cleared ++ later)
  /-- At most one has been cleared without being begun. -/
  clears : Clears begun cleared
  /-- What is begun afterwards belongs to the ordinal that is being handled. -/
  finishes : WindsDown (handling? ((begun ++ cleared).map Errand.exchange))
    (later.map Errand.request)
  /-- The rollout is completed only if no ordinal is left to handle. -/
  completed : ∀ skipped, e = .ok (.completed skipped) → ∃ current desired,
    ⟨.transform current, .ok desired⟩ ∈ (begun ++ cleared ++ later).map Errand.exchange ∧
    LastHandled (handling? ((begun ++ cleared).map Errand.exchange)) desired.spec.replicas

section

variable {c : ClusterGates} {retry : ConflictRetry} {jitter : Bool} {id : WorkloadId}
  {pre post : List Exchange} {e : Ending Outcome}

/-- A suite winds down from every moment that does not come right after a look. -/
theorem Program.Errands.winds_down {begun later : List Errand}
    (h : Errands (c.gates.answers .revision id) (rollOutSuite (.external c.timing)
      ⟨externalTransform, ⟨.external, retry, jitter, c.rounds⟩⟩ id) (begun ++ later) e)
    (hlook : ∀ before, begun.map Errand.exchange ≠ before ++ [⟨.stopping, false⟩])
    (htold : Told (later.flatMap Errand.calls)) :
    WindsDown (handling? (begun.map Errand.exchange)) (later.map Errand.request) ∧
      ∀ skipped, e = .ok (.completed skipped) → ∃ current desired,
        ⟨.transform current, .ok desired⟩ ∈ (begun ++ later).map Errand.exchange ∧
        LastHandled (handling? (begun.map Errand.exchange)) desired.spec.replicas := by
  obtain ⟨more, e', hrun, hmore, hok⟩ := h.run
  rw [List.map_append, List.append_assoc] at hrun
  have htold : Told (later.map Errand.exchange ++ more) := by
    intro x hx hheeds
    rcases List.mem_append.1 hx with hx | hx
    · exact h.told (fun d hd => List.mem_append_right begun hd) htold x hx hheeds
    · obtain ⟨r, reply⟩ := x
      obtain rfl : reply = anyReply r := hmore _ hx
      cases r with
      | stopping | sleep => rfl
      | _ => cases hheeds
  obtain ⟨hwinds, hlast⟩ := run_rollOutSuite_winds_down hrun hlook htold
  rw [List.map_append, List.map_map] at hwinds
  refine ⟨hwinds.of_append, ?_⟩
  rintro skipped rfl
  obtain ⟨rfl, rfl⟩ := hok _ rfl
  obtain ⟨current, desired, htransform, hhandled⟩ := hlast skipped rfl
  exact ⟨current, desired, by simpa using htransform, hhandled⟩

/-- At every moment of a run the errands fall apart. -/
theorem exists_windingDown (hrun : Run (c.rollout retry jitter id) (pre ++ post) e)
    (htold : Told post) :
    ∃ begun cleared later, WindingDown c retry jitter id pre post e begun cleared later := by
  obtain ⟨errands, herrands, hes⟩ := ClusterGates.run_rollout_iff.1 hrun
  obtain ⟨begun, later, rfl, hmoment⟩ := exists_parted hes.symm
  have htold : Told (later.flatMap Errand.calls) := by
    obtain ⟨rest, rfl, -⟩ := hmoment.exists_rest
    exact fun x hx => htold x (List.mem_append_right rest hx)
  by_cases hlook : ∃ before, begun.map Errand.exchange = before ++ [⟨.stopping, false⟩]
  case neg =>
    have hlook : ∀ before, begun.map Errand.exchange ≠ before ++ [⟨.stopping, false⟩] :=
      fun before h => hlook ⟨before, h⟩
    obtain ⟨hwinds, hlast⟩ := herrands.winds_down hlook htold
    exact ⟨begun, [], later, by simpa using herrands, hmoment, .inl rfl, by simpa using hwinds,
      by simpa using hlast⟩
  obtain ⟨calls, hcalls⟩ := hlook
  obtain ⟨before, lasts, rfl, rfl, hlasts⟩ := List.map_eq_append_iff.1 hcalls
  obtain ⟨look, rfl, hlook⟩ := List.map_eq_singleton_iff.1 hlasts
  obtain ⟨more, e', hsuite, -, hok⟩ := herrands.run
  simp only [List.map_append, List.map_cons, hlook, List.append_assoc, List.singleton_append]
    at hsuite
  cases later with
  | nil =>
    refine ⟨before ++ [look], [], [], by simpa using herrands, hmoment, .inl rfl,
      .of_idle (by simp), ?_⟩
    rintro skipped rfl
    obtain ⟨rfl, rfl⟩ := hok _ rfl
    rcases run_rollOutSuite_cleared hsuite with ⟨-, hne⟩ | ⟨x, rest, hx, -⟩
    · exact absurd rfl (hne skipped)
    · simp at hx
  | cons d later =>
    have hverifies : d.request.verifies = true := by
      rcases run_rollOutSuite_cleared hsuite with ⟨hnil, -⟩ | ⟨x, rest, hx, hverifies⟩
      · simp at hnil
      · obtain ⟨rfl, -⟩ := List.cons.inj hx
        exact hverifies
    have hclear : ∀ calls, (before ++ [look] ++ [d]).map Errand.exchange ≠
        calls ++ [⟨.stopping, false⟩] := by
      intro calls h
      rw [List.map_append] at h
      obtain ⟨-, hlast⟩ := List.append_inj' h rfl
      have hrequest : d.request = .stopping :=
        congrArg Exchange.request (List.singleton_inj.1 hlast)
      rw [hrequest] at hverifies
      cases hverifies
    have herrands' := herrands
    rw [List.append_cons] at herrands'
    obtain ⟨hwinds, hlast⟩ := herrands'.winds_down hclear
      fun x hx => htold x (List.mem_append_right d.calls hx)
    refine ⟨before ++ [look], [d], later, herrands', hmoment, .inr ⟨before, look, d, rfl, ?_, rfl,
      hverifies⟩, hwinds, hlast⟩
    exact congrArg Exchange.request hlook

theorem Program.Told.countP_waited (h : Told post) : post.countP Exchange.waited = 0 := by
  refine List.countP_eq_zero.2 ?_
  intro x hx
  have hx := h x hx
  obtain ⟨r, reply⟩ := x
  cases r with
  | sleep d =>
    obtain rfl : reply = true := hx rfl
    exact Bool.false_ne_true
  | _ => exact Bool.false_ne_true

theorem WindingDown.countP_isUpdate {begun cleared later : List Errand}
    (h : WindingDown c retry jitter id pre post e begun cleared later) :
    post.countP Exchange.isUpdate ≤ 1 := by
  rw [h.errands.countP_post (List.append_assoc begun cleared later) h.moment, List.map_append,
    List.countP_append]
  have hcleared : (cleared.map Errand.request).countP Request.isUpdate = 0 := by
    rcases h.clears with rfl | ⟨before, look, d, -, -, rfl, hd⟩
    · rfl
    · revert hd
      show d.request.verifies = true → [d.request].countP Request.isUpdate = 0
      cases d.request <;> simp [Request.verifies, Request.isUpdate]
  rw [hcleared, Nat.zero_add]
  exact h.finishes.updates

/-- **Winding down.** At any moment of a run the shutdown signal comes up and stays up. From then on
at most one update is started, what is begun belongs to the ordinal that is being handled and
verifies nothing, and the first look or wait is the end of the run, which fails. The run does end:
no loop runs out of rounds that had not used them up before. -/
theorem ClusterGates.rollout_winds_down (hrun : Run (c.rollout retry jitter id) (pre ++ post) e)
    (htold : Told post) :
    (∃ begun cleared later, WindingDown c retry jitter id pre post e begun cleared later) ∧
      post.countP Exchange.isUpdate ≤ 1 ∧
      (∀ before x after, post = before ++ x :: after → x.request.heeds = true →
        after = [] ∧ ∃ o cause, e = .ok o ∧ o.result = .error cause) ∧
      (pre.countP Exchange.waited < c.rounds → e ≠ .error .exhausted) := by
  obtain ⟨begun, cleared, later, hwinds⟩ := exists_windingDown hrun htold
  have hwatched := c.watchful_rollout _ _ hrun
  refine ⟨⟨begun, cleared, later, hwinds⟩, hwinds.countP_isUpdate, ?_, ?_⟩
  · rintro before x after rfl hheeds
    rw [← List.append_assoc] at hwatched
    obtain ⟨hafter, o, he, cause, hcause⟩ := hwatched.last (htold x (by simp) hheeds)
    exact ⟨hafter, o, cause, he, hcause⟩
  · rintro hfew rfl
    have hmany := hwatched.waits rfl
    rw [List.countP_append, htold.countP_waited, Nat.add_zero] at hmany
    exact Nat.not_le_of_lt hfew hmany

end

/-- The signal comes up while the wait for readiness reads the set, which turns out to be ready. The
update is started all the same; it meets a conflict, and the delay after it is the end. -/
theorem ClusterGates.rollout_winds_down_in_gate :
    let pre := ToldToStop.callsRefused.take 5
    let post := ToldToStop.callsRefused.drop 5
    let e : Ending Outcome := .ok (.failed false (.strategy ToldToStop.id (.cancelled 0)))
    Run (ToldToStop.cluster.rollout .standard false ToldToStop.id) (pre ++ post) e ∧ Told post ∧
      post.countP Exchange.isUpdate = 1 ∧
      ∃ begun cleared later, WindingDown ToldToStop.cluster .standard false ToldToStop.id pre post e
        begun cleared later := by
  have htold : Told (ToldToStop.callsRefused.drop 5) := by
    intro x hx hheeds
    simp only [ToldToStop.callsRefused, List.drop_succ_cons, List.drop_zero, List.mem_cons,
      List.not_mem_nil, or_false] at hx
    rcases hx with rfl | rfl | rfl
    · cases hheeds
    · cases hheeds
    · rfl
  exact ⟨ToldToStop.run_callsRefused, htold, rfl,
    (ToldToStop.cluster.rollout_winds_down ToldToStop.run_callsRefused htold).1⟩

/-! ## In a simulated cluster -/

/-- **Winding down in a simulated cluster.** At any moment of a run the signal is up in the cluster,
and nobody is going to withdraw it. Then the run winds down from that moment, and the first look or
wait to come notices the signal, takes no time and is the last call. -/
theorem ClusterGates.rollout_winds_down_rehearsed {c : ClusterGates} {retry : ConflictRetry}
    {jitter : Bool} {id : WorkloadId} {pre post : List Exchange} {e : Ending Outcome}
    {moment final : Cluster} (hrun : Run (c.rollout retry jitter id) (pre ++ post) e)
    (hup : moment.KeepsStop) (htraced : Traced Cluster.answer moment post final) :
    (∃ begun cleared later, WindingDown c retry jitter id pre post e begun cleared later) ∧
      post.countP Exchange.isUpdate ≤ 1 ∧
      ∀ before x after, post = before ++ x :: after → x.request.heeds = true →
        x.Noticed ∧ after = [] ∧ Traced Cluster.answer moment before final := by
  obtain ⟨begun, cleared, later, hwinds⟩ := exists_windingDown hrun (hup.told htraced)
  refine ⟨⟨begun, cleared, later, hwinds⟩, hwinds.countP_isUpdate, ?_⟩
  rintro before x after rfl hheeds
  obtain ⟨hnoticed, u, hbefore, hafter⟩ := hup.heeded htraced hheeds
  have hwatched := c.watchful_rollout _ _ hrun
  rw [← List.append_assoc] at hwatched
  obtain ⟨rfl, -⟩ := hwatched.last hnoticed
  obtain rfl : final = u := hafter
  exact ⟨hnoticed, rfl, hbefore⟩

end PartitionedRollout
