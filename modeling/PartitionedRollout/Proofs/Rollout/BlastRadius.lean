/-
# PartitionedRollout.Proofs.Rollout.BlastRadius -- which replicas a rollout can reach

Replicas change because agents act on partitions that a rollout has made durable, at any time after
that and in any way. What bounds them is the lowest of these partitions, and a rollout makes none
durable that is below the ordinal it is handling. So the replicas below that ordinal stay as they
are, at every moment of a run and for as long as nobody starts another one.

A rollout itself writes no reports. The two halves of the argument are therefore kept apart:
`Attended` histories leave the replicas below every durable partition alone, whoever made it
durable, and the calls of a rollout keep their partitions above.
-/

import PartitionedRollout.Proofs.Rollout.Interleaving
import PartitionedRollout.Proofs.Rollout.Order

namespace PartitionedRollout

open Program Store

/-! ## Reports on replicas -/

/-- What is reported of a replica of a set: every entry with its ordinal, in order, if there is such
a set. -/
def Store.reports (s : Store) (id : WorkloadId) (ordinal : UInt32) :
    Except StoreError (Option (List ReplicaStatus)) :=
  (s.entry id.key).map (Option.map fun w => w.status.replicas.filter (·.ordinal = ordinal))

/-- A write is seen in the reports on replicas of its own set and nowhere else. -/
theorem Store.reports_write (s : Store) (key : String) (w : WorkloadSet) (id : WorkloadId)
    (ordinal : UInt32) :
    (s.write key w).reports id ordinal =
      if key = id.key then .ok (some (w.status.replicas.filter (·.ordinal = ordinal)))
      else s.reports id ordinal := by
  unfold Store.reports
  rw [entry_write]
  split <;> rfl

/-- A change of the report on one replica is no change of those on another. -/
theorem WorkloadStatus.filter_modifyFirst {p ordinal : UInt32} {f : ReplicaStatus → ReplicaStatus}
    (hf : ∀ r, (f r).ordinal = r.ordinal) (hne : ordinal ≠ p) (l : List ReplicaStatus) :
    (modifyFirst p f l).filter (·.ordinal = ordinal) = l.filter (·.ordinal = ordinal) := by
  induction l with
  | nil => rfl
  | cons r l ih =>
    rw [modifyFirst]
    split
    next hr => simp [hf, hr, Ne.symm hne]
    next => rw [List.filter_cons, List.filter_cons, ih]

/-- What a program does to a store changes no report. -/
theorem Program.Exchange.Served.reports {x : Exchange} {s s' : Store} (h : x.Served s s')
    (id : WorkloadId) (ordinal : UInt32) : s'.reports id ordinal = s.reports id ordinal := by
  rcases h.eq_or_update (b := .memory) with rfl | ⟨w, stored, rfl, -⟩
  · rfl
  · obtain ⟨-, current, hentry, -, rfl, rfl⟩ := update_eq_ok_iff.1 h
    rw [reports_write]
    split
    next hkey =>
      rw [Store.reports, ← hkey, hentry]
      rfl
    next => rfl

/-! ## Histories with agents -/

/-- A history in which every other client leaves the replicas of a set alone that are below all
partitions made durable so far, those of the list and those of the history itself. -/
inductive Attended (b : Backend) (id : WorkloadId) :
    List UInt32 → Store → List StoreEvent → Store → Prop where
  | nil {durable : List UInt32} {s : Store} : Attended b id durable s [] s
  | own {durable : List UInt32} {s t u : Store} {x : Exchange} {events : List StoreEvent}
      (head : x.Served s t) (tail : Attended b id (x.persisted?.toList ++ durable) t events u) :
      Attended b id durable s (.own x :: events) u
  | foreign {durable : List UInt32} {s t u : Store} {op : StoreOperation} {a : StoreAnswer}
      {events : List StoreEvent} (client : op.OfClient) (head : s.perform b op = (a, t))
      (spares : ∀ ordinal, (∀ q ∈ durable, ordinal < q) →
        t.reports id ordinal = s.reports id ordinal)
      (tail : Attended b id durable t events u) :
      Attended b id durable s (.foreign ⟨op, a⟩ :: events) u

/-- A replica below every partition that was durable before or became so is as it was. -/
theorem Attended.reports {b : Backend} {id : WorkloadId} {durable : List UInt32} {s s' : Store}
    {events : List StoreEvent} {ordinal : UInt32} (h : Attended b id durable s events s')
    (hbefore : ∀ q ∈ durable, ordinal < q)
    (hevents : ∀ q ∈ (owned events).filterMap Exchange.persisted?, ordinal < q) :
    s'.reports id ordinal = s.reports id ordinal := by
  induction h with
  | nil => rfl
  | @own durable s t u x events head _ ih =>
    rw [ih, head.reports]
    · intro q hq
      rcases List.mem_append.1 hq with hq | hq
      · exact hevents q (List.mem_filterMap.2 ⟨x, List.mem_cons_self, Option.mem_toList.1 hq⟩)
      · exact hbefore q hq
    · intro q hq
      obtain ⟨y, hy, hyq⟩ := List.mem_filterMap.1 hq
      exact hevents q (List.mem_filterMap.2 ⟨y, List.mem_cons_of_mem x hy, hyq⟩)
  | foreign _ _ spares _ ih => rw [ih hbefore hevents, spares _ hbefore]

/-! ## Partitions and the ordinal that is handled -/

/-- The ordinal that is being handled after some calls: the one that was pre-checked last. -/
def handling? (es : List Exchange) : Option UInt32 :=
  (es.filterMap Exchange.precheck?).getLast?

theorem map_ordinal_note (vs : List Visit) (x : Exchange) :
    (Visit.note vs x).map Visit.ordinal = x.precheck?.toList ++ vs.map Visit.ordinal := by
  obtain ⟨r, reply⟩ := x
  cases r <;> cases vs <;> rfl

theorem map_ordinal_foldl_note (vs : List Visit) (es : List Exchange) :
    (es.foldl Visit.note vs).map Visit.ordinal =
      (es.filterMap Exchange.precheck?).reverse ++ vs.map Visit.ordinal := by
  induction es generalizing vs with
  | nil => rfl
  | cons x es ih =>
    rw [List.foldl_cons, ih, map_ordinal_note]
    cases hx : x.precheck? <;> simp [hx]

/-- Every visit begins with a pre-check. -/
theorem map_ordinal_visits (es : List Exchange) :
    (visits es).map Visit.ordinal = (es.filterMap Exchange.precheck?).reverse := by
  rw [visits, map_ordinal_foldl_note, List.map_nil, List.append_nil]

/-- No partition is made durable below the ordinal that is being handled, and none before the first
ordinal is. -/
theorem Moves.handling_le_persisted {policy : ConflictRetry} {id : WorkloadId} {replicas : UInt32}
    {w : WorkloadSet} {es : List Exchange} {t : Stage}
    (h : Moves policy id (.between replicas.toNat w) es t) {q : UInt32}
    (hq : q ∈ es.filterMap Exchange.persisted?) : ∃ p, handling? es = some p ∧ p ≤ q := by
  obtain ⟨x, hx, hxq⟩ := List.mem_filterMap.1 hq
  obtain ⟨pre, post, rfl⟩ := List.append_of_mem hx
  obtain ⟨sent, stored, rfl⟩ : ∃ sent stored, x = ⟨.update sent, .ok stored⟩ := by
    obtain ⟨r, reply⟩ := x
    cases r with
    | update sent =>
      cases reply with
      | ok stored => exact ⟨sent, stored, rfl⟩
      | error e => cases hxq
    | _ => cases hxq
  -- The partition is the ordinal of the current visit, so it was pre-checked; pre-checks go down.
  obtain ⟨v, earlier, hvisits, hpartition, -⟩ := h.update_allowed
  obtain rfl : v.ordinal = q := Option.some.inj (hpartition.symm.trans hxq)
  have hchecked : v.ordinal ∈ pre.filterMap Exchange.precheck? := by
    rw [← List.mem_reverse, ← map_ordinal_visits, hvisits]
    exact List.mem_cons_self
  obtain ⟨rest, hrest, -⟩ := h.prechecks
  have hdown := descending_pairwise (Nat.le_of_lt replicas.toNat_lt)
  rw [show descending replicas.toNat = _ from hrest] at hdown
  refine getLast?_le_of_pairwise (List.pairwise_append.1 hdown).1 ?_
  rw [List.filterMap_append]
  exact List.mem_append_left _ hchecked

/-! ## The ordinal at which a rollout stops -/

namespace Program

variable {α β : Type} {P : Exchange → Prop}

/-- Every call that a program makes is of a kind, and so is the value it ends in. -/
def Confined (P : Exchange → Prop) (m : Program α) (post : α → Prop) : Prop :=
  ∀ es e, Run m es e → (∀ x ∈ es, P x) ∧ ∀ a, e = .ok a → post a

namespace Confined

variable {post : β → Prop}

theorem done {b : β} (h : post b) : Confined P (.done b) post := by
  intro es e hrun
  obtain ⟨rfl, rfl⟩ := run_done_iff.1 hrun
  refine ⟨by simp, ?_⟩
  intro a ha
  obtain rfl := Except.ok.inj ha
  exact h

theorem halt {h : Halt} : Confined P (.halt h) post := by
  intro es e hrun
  obtain ⟨rfl, rfl⟩ := run_halt_iff.1 hrun
  exact ⟨by simp, by simp⟩

theorem call {r : Request} {f : r.Reply → Program β} (hr : ∀ x, P ⟨r, x⟩)
    (hf : ∀ x, Confined P (f x) post) : Confined P (.call r >>= f) post := by
  intro es e hrun
  obtain ⟨x, rest, rfl, hrest⟩ := run_call_bind_iff.1 hrun
  obtain ⟨hcalls, hpost⟩ := hf x rest e hrest
  exact ⟨List.forall_mem_cons.2 ⟨hr x, hcalls⟩, hpost⟩

theorem bind {m : Program α} {f : α → Program β} {mid : α → Prop} (hm : Confined P m mid)
    (hf : ∀ a, mid a → Confined P (f a) post) : Confined P (m >>= f) post := by
  intro es e hrun
  rcases run_bind_iff.1 hrun with ⟨a, es₁, es₂, rfl, hfirst, hsecond⟩ | ⟨h, rfl, hfirst⟩
  · obtain ⟨hcalls, hmid⟩ := hm es₁ _ hfirst
    obtain ⟨hrest, hpost⟩ := hf a (hmid a rfl) es₂ e hsecond
    exact ⟨List.forall_mem_append.2 ⟨hcalls, hrest⟩, hpost⟩
  · exact ⟨(hm es _ hfirst).1, by simp⟩

theorem ofOption {o : Option α} {f : α → Program β} (hf : ∀ a, Confined P (f a) post) :
    Confined P (.ofOption o >>= f) post := by
  cases o with
  | none => exact halt
  | some a => exact hf a

end Confined

end Program

/-- The call makes no partition durable but one. -/
def Program.Exchange.PersistsOnly (p : UInt32) (x : Exchange) : Prop :=
  ∀ q, x.persisted? = some q → q = p

/-- An error that names no other ordinal is given the one that is handled. -/
theorem RolloutError.ordinal_addOrdinal {e : RolloutError} {p : UInt32}
    (h : ∀ q, e.ordinal = some q → q = p) : (e.addOrdinal p).ordinal = some p := by
  cases he : e.ordinal with
  | none => simp [RolloutError.addOrdinal, he, RolloutError.ordinal]
  | some q => simp [RolloutError.addOrdinal, he, h q he]

section

variable {id : WorkloadId} {p : UInt32}

theorem confined_updateWithin (base : WorkloadSet) {interval : TimeSpan} {template : Template}
    {n : Nat} :
    Confined (Exchange.PersistsOnly p)
      (updateWithin id p interval (·.withTemplate template) n
        ((base.withTemplate template).withPartition p))
      fun r => ∀ cause, r = .error cause → ∀ q, cause.ordinal = some q → q = p := by
  have hupdate : ∀ (base : WorkloadSet) reply,
      Exchange.PersistsOnly p ⟨.update ((base.withTemplate template).withPartition p), reply⟩ := by
    rintro base (cause | stored) q hq
    · cases hq
    · exact (Option.some.inj hq).symm
  have hstore : ∀ (e : StoreError) cause, (.error (.ofStore id e) : Except RolloutError WorkloadSet)
      = .error cause → ∀ q, cause.ordinal = some q → q = p := by
    rintro e _ ⟨⟩ q ⟨⟩
  induction n generalizing base with
  | zero =>
    rw [updateWithin]
    refine .call (hupdate base) ?_
    rintro (e | stored)
    · exact .done (hstore e)
    · exact .done (by simp)
  | succ n ih =>
    rw [updateWithin]
    refine .call (hupdate base) ?_
    rintro (e | stored)
    · simp only
      split
      · exact .done (hstore e)
      refine .call (by rintro _ _ ⟨⟩) ?_
      rintro (_ | _)
      · refine .call (by rintro _ _ ⟨⟩) ?_
        rintro (e | latest)
        · exact .done (hstore e)
        · exact ih latest
      · refine .done ?_
        rintro _ ⟨⟩ q ⟨⟩
        rfl
    · exact .done (by simp)

theorem confined_wait {b : Backoff} {interval : TimeSpan} :
    Confined (Exchange.PersistsOnly p) (b.wait interval) fun _ => True := by
  unfold Backoff.wait
  split
  · exact .done trivial
  split
  · exact .halt
  split
  · exact .call (by rintro _ _ ⟨⟩) fun _ => .ofOption fun _ => .done trivial
  · exact .done trivial

theorem confined_pollFrom {b : Backoff} {ordinal : UInt32} {w : WorkloadSet} {start : TimeSpan}
    {rounds : Nat} {interval : TimeSpan} {attempts : UInt32} :
    Confined (Exchange.PersistsOnly p)
      (pollFrom b (.call (.check ordinal w)) start rounds interval attempts) fun _ => True := by
  induction rounds generalizing interval attempts with
  | zero => exact .halt
  | succ rounds ih =>
    rw [pollFrom]
    refine .call (by rintro _ _ ⟨⟩) ?_
    rintro (_ | _)
    · refine .call (by rintro _ _ ⟨⟩) ?_
      rintro (_ | cause | _)
      · exact .done trivial
      · refine .call (by rintro _ _ ⟨⟩) fun now => .bind confined_wait fun wait _ => ?_
        refine .ofOption fun reach => ?_
        split
        · exact .done trivial
        refine .call (by rintro _ _ ⟨⟩) ?_
        rintro (_ | _)
        · exact .ofOption fun _ => ih
        · exact .done trivial
      · exact .done trivial
    · exact .done trivial

/-- While an ordinal is updated no other partition is made durable, and an error names the
ordinal. -/
theorem confined_updateOrdinal {s : Strategy} {timing : Timing} {w : WorkloadSet}
    (hs : s.verifier = .external) :
    Confined (Exchange.PersistsOnly p) (s.updateOrdinal (.external timing) id w p)
      fun r => ∀ cause, r.2 = .error cause → cause.ordinal = some p := by
  rw [Strategy.updateOrdinal]
  refine .call (by rintro _ _ ⟨⟩) ?_
  rintro (cause | _)
  · refine .done ?_
    rintro _ ⟨⟩
    rfl
  refine .bind (confined_updateWithin (w.withPartition p)) ?_
  rintro (cause | stored) hcause
  · refine .done ?_
    rintro _ ⟨⟩
    exact RolloutError.ordinal_addOrdinal (hcause cause rfl)
  rw [hs]
  have hpoll : Confined (Exchange.PersistsOnly p)
      (poll s.rounds (s.backoff (.external timing))
        (Verifier.external.check (w.withPartition p) id p)) fun _ => True :=
    .call (by rintro _ _ ⟨⟩) fun _ => confined_pollFrom
  refine .bind hpoll ?_
  rintro (⟨⟨attempts, elapsed, last⟩ | attempts⟩ | n) -
  · refine .done ?_
    rintro _ ⟨⟩
    rfl
  · refine .done ?_
    rintro _ ⟨⟩
    rfl
  refine .call (by rintro _ _ ⟨⟩) ?_
  rintro (e | latest)
  · refine .done ?_
    rintro _ ⟨⟩
    exact RolloutError.ordinal_addOrdinal (by rintro q ⟨⟩)
  refine .call (by rintro _ _ ⟨⟩) ?_
  rintro (cause | _)
  · refine .done ?_
    rintro _ ⟨⟩
    rfl
  · exact .done (by simp)

/-- A walk that fails names an ordinal, and no partition below that one was made durable. -/
theorem run_walk_failed {s : Strategy} {timing : Timing} {count : Nat} {w latest : WorkloadSet}
    {skipped : Bool} {es : List Exchange} {o : Outcome} {cause : RolloutError}
    (hs : s.verifier = .external) (hcount : count ≤ UInt32.size)
    (h : Run (s.walk (.external timing) id count w skipped) es (.ok (latest, o)))
    (ho : o.result = .error cause) :
    ∃ p < count, cause.ordinal = some (.ofNat p) ∧
      ∀ q ∈ es.filterMap Exchange.persisted?, .ofNat p ≤ q := by
  induction count generalizing w skipped es with
  | zero =>
    obtain ⟨-, he⟩ := run_done_iff.1 h
    obtain ⟨rfl, rfl⟩ := Prod.mk.inj (Except.ok.inj he)
    cases ho
  | succ count ih =>
    rw [Strategy.walk, run_call_bind_iff] at h
    obtain ⟨stopped, es, rfl, h⟩ := h
    cases stopped with
    | true =>
      obtain ⟨rfl, he⟩ := run_done_iff.1 h
      obtain ⟨rfl, rfl⟩ := Prod.mk.inj (Except.ok.inj he)
      obtain rfl := Except.error.inj ho
      exact ⟨count, Nat.lt_succ_self _, rfl, by simp [Exchange.persisted?]⟩
    | false =>
      simp only [Bool.false_eq_true, if_false] at h
      rw [hs] at h
      replace h := run_call_bind_iff.1 h
      obtain ⟨verdict, es, rfl, h⟩ := h
      cases verdict with
      | ok _ =>
        obtain ⟨p, hp, hordinal, hes⟩ := ih (Nat.le_of_succ_le hcount) h
        exact ⟨p, Nat.lt_succ_of_lt hp, hordinal, hes⟩
      | error _ =>
        rcases run_bind_iff.1 h with ⟨⟨working, result⟩, es₁, es₂, rfl, hupdate, h⟩ | ⟨_, ⟨⟩, -⟩
        obtain ⟨honly, hcause⟩ := confined_updateOrdinal hs es₁ _ hupdate
        -- The partition of the ordinal itself is not below where the walk stops, now or later.
        have hfirst : ∀ p ≤ count, ∀ q ∈ es₁.filterMap Exchange.persisted?, .ofNat p ≤ q := by
          intro p hp q hq
          obtain ⟨x, hx, hxq⟩ := List.mem_filterMap.1 hq
          rw [honly x hx q hxq, UInt32.le_iff_toNat_le, UInt32.toNat_ofNat_of_lt' (by omega),
            UInt32.toNat_ofNat_of_lt' hcount]
          exact hp
        cases result with
        | error e =>
          obtain ⟨rfl, he⟩ := run_done_iff.1 h
          obtain ⟨rfl, rfl⟩ := Prod.mk.inj (Except.ok.inj he)
          obtain rfl := Except.error.inj ho
          refine ⟨count, Nat.lt_succ_self _, hcause _ rfl e rfl, ?_⟩
          rw [List.append_nil]
          exact hfirst count (Nat.le_refl _)
        | ok _ =>
          obtain ⟨p, hp, hordinal, hes⟩ := ih (Nat.le_of_succ_le hcount) h
          refine ⟨p, Nat.lt_succ_of_lt hp, hordinal, ?_⟩
          intro q hq
          have hq : q ∈ (es₁ ++ es₂).filterMap Exchange.persisted? := hq
          rw [List.filterMap_append] at hq
          rcases List.mem_append.1 hq with hq | hq
          · exact hfirst p (Nat.le_of_lt hp) q hq
          · exact hes q hq

end

/-! ## The blast radius -/

/-- **Blast radius.** Other clients act on replicas only at or above partitions that the rollout has
made durable, whenever they like. Then at every moment of a run the replicas below the ordinal that
is being handled are reported as they were when the run began, and all replicas are before the first
ordinal is handled. If the run ends with an error, the error names an ordinal, and the replicas
below that one are reported as they were, however long the others go on. -/
theorem rollOut_spares_lower {b : Backend} {retry : ConflictRetry} {jitter : Bool} {rounds : Nat}
    {timing : Timing} {id : WorkloadId} {working : WorkloadSet} {s₀ s : Store}
    {events : List StoreEvent} {rest : List Exchange} {e : Ending (WorkloadSet × Outcome)}
    (hevents : Attended b id [] s₀ events s)
    (hrun : Run ((⟨.external, retry, jitter, rounds⟩ : Strategy).rollOut (.external timing) id
      working) (owned events ++ rest) e) :
    (∀ ordinal, (∀ p, handling? (owned events) = some p → ordinal < p) →
      s.reports id ordinal = s₀.reports id ordinal) ∧
    ∀ latest skipped cause, rest = [] → e = .ok (latest, .failed skipped cause) →
      ∃ p, cause.ordinal = some p ∧
        ∀ ordinal < p, s.reports id ordinal = s₀.reports id ordinal := by
  constructor
  · intro ordinal hbelow
    obtain ⟨t, hmoves, -⟩ := run_rollOut hrun
    obtain ⟨u, hmoves, -⟩ := Moves.append_iff.1 hmoves
    refine hevents.reports (by simp) ?_
    intro q hq
    obtain ⟨p, hp, hle⟩ := hmoves.handling_le_persisted hq
    exact UInt32.lt_of_lt_of_le (hbelow p hp) hle
  · rintro latest skipped cause rfl rfl
    rw [List.append_nil] at hrun
    have hsize : working.spec.replicas.toNat ≤ UInt32.size :=
      Nat.le_of_lt working.spec.replicas.toNat_lt
    obtain ⟨p, -, hordinal, hes⟩ := run_walk_failed rfl hsize hrun rfl
    refine ⟨.ofNat p, hordinal, ?_⟩
    intro ordinal hbelow
    refine hevents.reports (by simp) ?_
    intro q hq
    exact UInt32.lt_of_lt_of_le hbelow (hes q hq)

/-! ## An agent that acts late -/

namespace LateAgent

/-- The set that is rolled out. -/
def id : WorkloadId :=
  ⟨"db", "a"⟩

/-- The set as it is stored at first: two replicas that serve. -/
def start : WorkloadSet :=
  withStatus (putOver none (.ofSpec id 2 (.ofImage "v1")))
    fun _ => ⟨0, [⟨0, "old", true, none⟩, ⟨1, "old", true, none⟩]⟩

/-- What is rolled out. -/
def desired : WorkloadSet :=
  start.withTemplate (.ofImage "v2")

/-- A report about no replica. -/
def observe (s : WorkloadStatus) : WorkloadStatus :=
  ⟨1, s.replicas⟩

/-- What the agent reports of replica one. -/
def act (ready : Bool) (s : WorkloadStatus) : WorkloadStatus :=
  s.modifyReplica 1 fun r => { r with revision := "new", ready := ready }

/-- The set with the report about no replica. -/
def observed : WorkloadSet :=
  withStatus start observe

/-- The set with the update of ordinal one. -/
def updated : WorkloadSet :=
  withSpec observed (candidate 1 desired observed).spec

/-- The set after the agent has replaced the replica. -/
def replaced : WorkloadSet :=
  withStatus updated (act false)

/-- The set after the replica has come up. -/
def recovered : WorkloadSet :=
  withStatus replaced (act true)

/-- The store with one version of the set written over the others. -/
def storeOf (versions : List WorkloadSet) : Store :=
  versions.foldr (fun w s => s.write id.key w) .empty

/-- The whole history. The rollout is told to stop while the replica is replaced, and the agent goes
on. -/
def history : List StoreEvent :=
  [.own ⟨.stopping, false⟩, .own ⟨.verify 1 desired, .error (.plain "not updated")⟩,
    .own ⟨.awaitReady, .ok ()⟩, .foreign ⟨.updateStatus id observe, .stored observed⟩,
    .own ⟨.update (candidate 1 desired start), .error (.conflict id.key 2 3)⟩,
    .own ⟨.sleep ConflictRetry.standard.interval, false⟩, .own ⟨.get id, .ok observed⟩,
    .own ⟨.update (candidate 1 desired observed), .ok updated⟩,
    .foreign ⟨.updateStatus id (act false), .stored replaced⟩,
    .own ⟨.now, .zero⟩, .own ⟨.stopping, true⟩,
    .foreign ⟨.updateStatus id (act true), .stored recovered⟩]

theorem entry_storeOf (w : WorkloadSet) (versions : List WorkloadSet) :
    (storeOf (w :: versions)).entry id.key = .ok (some w) := by
  simp [storeOf]

theorem reports_storeOf (w : WorkloadSet) (versions : List WorkloadSet) (ordinal : UInt32) :
    (storeOf (w :: versions)).reports id ordinal =
      .ok (some (w.status.replicas.filter (·.ordinal = ordinal))) :=
  (reports_write _ id.key w id ordinal).trans (if_pos rfl)

theorem perform_updateStatus (w : WorkloadSet) (versions : List WorkloadSet)
    (f : WorkloadStatus → WorkloadStatus) :
    (storeOf (w :: versions)).perform .memory (.updateStatus id f) =
      (.stored (withStatus w f), storeOf (withStatus w f :: w :: versions)) :=
  answerWrite_of_ok (updateStatus_eq_ok_iff.2 ⟨w, entry_storeOf w versions, rfl, rfl⟩)

/-- Below partition one there is only replica zero, which the agent leaves alone. -/
theorem spares_act (ready : Bool) (w : WorkloadSet) (versions : List WorkloadSet) (ordinal : UInt32)
    (hbelow : ∀ q ∈ [(1 : UInt32)], ordinal < q) :
    (storeOf (withStatus w (act ready) :: w :: versions)).reports id ordinal =
      (storeOf (w :: versions)).reports id ordinal := by
  have hne : ordinal ≠ 1 := UInt32.ne_of_lt (hbelow 1 (List.mem_singleton_self 1))
  have hkept : ((act ready w.status).replicas.filter (·.ordinal = ordinal)) =
      w.status.replicas.filter (·.ordinal = ordinal) :=
    WorkloadStatus.filter_modifyFirst (by intro r; rfl) hne _
  rw [reports_storeOf, reports_storeOf]
  exact congrArg (fun l => Except.ok (some l)) hkept

theorem attended_history : Attended .memory id [] (storeOf [start]) history
    (storeOf [recovered, replaced, updated, observed, start]) := by
  have hstale : observed.resourceVersion ≠ (candidate 1 desired start).resourceVersion := by decide
  have hconflict : (storeOf [observed, start]).update (candidate 1 desired start) =
      .error (.conflict id.key 2 3) :=
    update_of_version_ne (by decide) (entry_storeOf observed [start]) hstale
  have hget : (storeOf [observed, start]).get id = .ok observed :=
    get_eq_ok_iff.2 (entry_storeOf observed [start])
  have hupdate : (storeOf [observed, start]).update (candidate 1 desired observed) =
      .ok (updated, storeOf [updated, observed, start]) :=
    update_eq_ok_iff.2 ⟨by decide, observed, entry_storeOf observed [start], rfl, rfl, rfl⟩
  refine .own rfl <| .own rfl <| .own rfl <|
    .foreign trivial (perform_updateStatus _ _ observe) ?_ <| .own ⟨hconflict, rfl⟩ <|
    .own rfl <| .own ⟨hget.symm, rfl⟩ <| .own hupdate <|
    .foreign trivial (perform_updateStatus _ _ (act false)) (spares_act false _ _) <|
    .own rfl <| .own rfl <|
    .foreign trivial (perform_updateStatus _ _ (act true)) (spares_act true _ _) .nil
  intro ordinal _
  rw [reports_storeOf, reports_storeOf]
  rfl

theorem run_history :
    Run ((⟨.external, .standard, false, 3⟩ : Strategy).rollOut (.external .standard) id desired)
      (owned history ++ []) (.ok (desired.withPartition 1, .failed false (.cancelled 1))) := by
  rw [List.append_nil]
  repeat apply Run.ask
  exact .done _

end LateAgent

/-- Two replicas. A status write makes the first update of the higher one conflict; the second one
is stored, the agent leaves the replica unready, the rollout is told to stop, and the agent acts
once more. The lower replica is reported as it was, the higher one is not. -/
theorem rollOut_spares_lower_late_agent :
    let s₀ := LateAgent.storeOf [LateAgent.start]
    let s := LateAgent.storeOf [LateAgent.recovered, LateAgent.replaced, LateAgent.updated,
      LateAgent.observed, LateAgent.start]
    Attended .memory LateAgent.id [] s₀ LateAgent.history s ∧
      handling? (owned LateAgent.history) = some 1 ∧
      s.reports LateAgent.id 0 = s₀.reports LateAgent.id 0 ∧
      s.reports LateAgent.id 1 ≠ s₀.reports LateAgent.id 1 := by
  have hspared := rollOut_spares_lower LateAgent.attended_history LateAgent.run_history
  obtain ⟨p, hp, hbelow⟩ := hspared.2 _ _ _ rfl rfl
  obtain rfl : 1 = p := Option.some.inj hp
  refine ⟨LateAgent.attended_history, rfl, hbelow 0 (by decide), ?_⟩
  rw [LateAgent.reports_storeOf, LateAgent.reports_storeOf]
  intro heq
  have hlists := Option.some.inj (Except.ok.inj heq)
  revert hlists
  decide

end PartitionedRollout
