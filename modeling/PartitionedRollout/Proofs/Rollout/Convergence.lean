/-
# PartitionedRollout.Proofs.Rollout.Convergence -- a rollout reaches every replica

Among agents that do what they are told and other writers that do not write too often, a rollout
runs to its end, and at the end every replica runs what was asked for. Nothing is written that is
not needed: an update is made for each ordinal that did not run it before, once for every writer
that was faster and once more.

The walk goes down the ordinals, and `Midway` says what is true between two of them: those above
have converged, those below are as they were at the start, and the working copy is current.
-/

import PartitionedRollout.Proofs.Rollout.Fleet

namespace PartitionedRollout

open Program Store

/-! ## What replicas run -/

/-- A replica is reported to run a revision. -/
def WorkloadSet.runs (w : WorkloadSet) (revision : String) (ordinal : UInt32) : Bool :=
  (w.status.replica? ordinal).any fun r => r.revision == revision

/-- The ordinals below a number that do not run a revision, highest first. -/
def WorkloadSet.outdated (w : WorkloadSet) (revision : String) (count : Nat) : List UInt32 :=
  (descending count).filter fun p => !w.runs revision p

theorem WorkloadSet.outdated_succ (w : WorkloadSet) (revision : String) (count : Nat) :
    w.outdated revision (count + 1) =
      if w.runs revision (.ofNat count) then w.outdated revision count
      else .ofNat count :: w.outdated revision count := by
  rw [outdated, descending_succ, List.filter_cons]
  cases w.runs revision (.ofNat count) <;> rfl

namespace WorkloadStatus

variable {s s' : WorkloadStatus} {id : WorkloadId} {revision : String} {p ordinal : UInt32}

theorem converged_eq_ok_iff :
    s.converged id revision ordinal = .ok () ↔
      ∃ r, s.replica? ordinal = some r ∧ r.revision = revision ∧ r.ready = true := by
  unfold converged
  split
  next hnone => simp [hnone]
  next r hsome =>
    by_cases hrevision : r.revision = revision
    · cases hready : r.ready <;> simp [hsome, hrevision, hready]
    · simp [hsome, hrevision]

/-- What has reported at or above a partition converges when agents act. -/
theorem converged_deploy (h : s'.replicas = s.replicas.map (·.deploy p revision))
    (hp : p ≤ ordinal) {r : ReplicaStatus} (hr : s.replica? ordinal = some r) :
    s'.converged id revision ordinal = .ok () := by
  have hreached : p ≤ r.ordinal := by rwa [ordinal_of_replica? hr]
  refine converged_eq_ok_iff.2 ⟨r.deploy p revision, ?_, ?_, ?_⟩
  · rw [replica?_deploy h, hr]
    rfl
  · simp [ReplicaStatus.deploy, hreached]
  · simp [ReplicaStatus.deploy, hreached]

/-- What is below a partition stays as it is when agents act. -/
theorem replica?_deploy_of_lt (h : s'.replicas = s.replicas.map (·.deploy p revision))
    (hp : ordinal < p) : s'.replica? ordinal = s.replica? ordinal := by
  rw [replica?_deploy h]
  cases hr : s.replica? ordinal with
  | none => rfl
  | some r =>
    have hspared : ¬ p ≤ r.ordinal := by
      rw [ordinal_of_replica? hr]
      exact UInt32.not_le.2 hp
    simp [ReplicaStatus.deploy, hspared]

end WorkloadStatus

/-- A specification with an image and a partition that names a replica has no fault. -/
theorem WorkloadSpec.fault?_eq_none {replicas p : UInt32} {t : Template}
    (himage : Text.isBlankText t.image = false) (hp : p < replicas) :
    (⟨replicas, t, some p⟩ : WorkloadSpec).fault? = none := by
  have hne : replicas ≠ 0 := by
    rintro rfl
    exact UInt32.not_lt_zero hp
  simp [fault?, himage, hne, UInt32.not_lt.2 (UInt32.le_of_lt hp)]

/-! ## Copies -/

/-- The set can be updated through a working copy, which asks for a template. -/
structure Held (t : Template) (current working : WorkloadSet) : Prop where
  key : working.id.key = current.id.key
  version : working.resourceVersion = current.resourceVersion
  template : working.spec.template = t
  replicas : working.spec.replicas = current.spec.replicas

/-- A version of the set that was just read asks for a template once that is put into it. -/
theorem Held.withTemplate (current : WorkloadSet) (t : Template) :
    Held t current (current.withTemplate t) :=
  ⟨rfl, rfl, rfl, rfl⟩

/-- What is sent to the store on such a copy has no fault. -/
theorem Held.valid {t : Template} {current base : WorkloadSet} {p : UInt32}
    (h : Held t current (base.withTemplate t)) (himage : Text.isBlankText t.image = false)
    (hp : p < current.spec.replicas) :
    ((base.withTemplate t).withPartition p).spec.fault? = none :=
  WorkloadSpec.fault?_eq_none himage (h.replicas ▸ hp)

/-- The set after an update to a partition was stored and agents acted on it. -/
structure Deployed (t : Template) (p : UInt32) (current latest : WorkloadSet) : Prop where
  id : latest.id = current.id
  spec : latest.spec = ⟨current.spec.replicas, t, some p⟩
  replicas : latest.status.replicas = current.status.replicas.map (·.deploy p t.revision)

/-- The writes that are still to come when nobody is going to write before an update to a partition
any more. -/
def settled (races : UInt32 → Nat) (p : UInt32) : UInt32 → Nat :=
  fun q => if q = p then 0 else races q

theorem settled_of_zero {races : UInt32 → Nat} {p : UInt32} (h : races p = 0) :
    settled races p = races := by
  funext q
  by_cases hq : q = p <;> simp [settled, hq, h]

/-- Writes before updates to lower partitions are still to come then. -/
theorem settled_of_mem_descending {races : UInt32 → Nat} {count : Nat} {q : UInt32}
    (hcount : count < UInt32.size) (hq : q ∈ descending count) :
    settled races (.ofNat count) q = races q := by
  have hbelow : q.toNat < count := (mem_descending (Nat.le_of_lt hcount)).1 hq
  have hne : q ≠ .ofNat count := by
    rintro rfl
    rw [UInt32.toNat_ofNat_of_lt' hcount] at hbelow
    exact Nat.lt_irrefl count hbelow
  exact if_neg hne

section

variable {v : Surroundings} {id : WorkloadId} {start : Store} {f : Fleet}
  {current working first latest : WorkloadSet} {races : UInt32 → Nat} {persisted : List UInt32}
  {updates : Nat} {t : Template} {p : UInt32}

/-! ## One ordinal -/

/-- What a fleet shows after an update to a partition: it was stored, after one attempt for every
writer that was faster. -/
def Fleet.ShowsUpdate (start : Store) (id : WorkloadId) (t : Template) (p : UInt32)
    (current : WorkloadSet) (races : UInt32 → Nat) (persisted : List UInt32) (updates : Nat)
    (g : Fleet) (latest : WorkloadSet) : Prop :=
  Deployed t p current latest ∧
    g.Shows start id latest (settled races p) (persisted ++ [p]) (updates + (1 + races p))

/-- If nobody is faster, an update is stored at once. -/
theorem reaches_stored {base : WorkloadSet}
    {k : Except StoreError WorkloadSet → Program (Except RolloutError WorkloadSet)}
    (h : f.Shows start id current races persisted updates) (hkey : current.id.key = id.key)
    (hheld : Held t current (base.withTemplate t)) (himage : Text.isBlankText t.image = false)
    (hp : p < current.spec.replicas) (hraces : races p = 0)
    (hk : ∀ stored, k (.ok stored) = .done (.ok stored)) :
    Reaches (Fleet.answer v id) f (.call (.update ((base.withTemplate t).withPartition p)) >>= k)
      fun r g => ∃ stored latest, r = .ok stored ∧
        g.ShowsUpdate start id t p current races persisted updates latest := by
  obtain ⟨stored, g, latest, hanswer, hid, hspec, hreplicas, hg⟩ :=
    h.update_stored (v := v) (w := (base.withTemplate t).withPartition p) (hheld.key.trans hkey)
      (hheld.valid himage hp) rfl hheld.version hraces
  refine .call hanswer ?_
  rw [hk]
  refine .done ⟨stored, latest, rfl, ⟨hid, ?_, hreplicas⟩, ?_⟩
  · rw [hspec, ← hheld.replicas]
    rfl
  · rwa [settled_of_zero hraces, hraces]

/-- An update is stored if there are retries for every writer that is faster. -/
theorem reaches_updateWithin {interval : TimeSpan} {n : Nat} {base : WorkloadSet}
    (h : f.Shows start id current races persisted updates) (hkey : current.id.key = id.key)
    (hheld : Held t current (base.withTemplate t)) (himage : Text.isBlankText t.image = false)
    (hp : p < current.spec.replicas) (hraces : races p ≤ n) :
    Reaches (Fleet.answer v id) f
      (updateWithin id p interval (·.withTemplate t) n ((base.withTemplate t).withPartition p))
      fun r g => ∃ stored latest, r = .ok stored ∧
        g.ShowsUpdate start id t p current races persisted updates latest := by
  induction n generalizing f current races updates base with
  | zero =>
    rw [updateWithin]
    exact reaches_stored h hkey hheld himage hp (Nat.le_zero.1 hraces) fun _ => rfl
  | succ n ih =>
    rw [updateWithin]
    by_cases hzero : races p = 0
    · exact reaches_stored h hkey hheld himage hp hzero fun _ => rfl
    obtain ⟨e, g, latest, hanswer, hconflict, rfl, hg⟩ :=
      h.update_raced (v := v) (w := (base.withTemplate t).withPartition p) (hheld.key.trans hkey)
        (hheld.valid himage hp) rfl hheld.version (Nat.pos_of_ne_zero hzero)
    refine .call hanswer ?_
    simp only [hconflict, Bool.not_true, Bool.false_eq_true, if_false]
    refine Fleet.reaches_note hg rfl rfl fun g hg => ?_
    refine Fleet.reaches_note hg (by rw [Fleet.answer, hg.get]) rfl fun g hg => ?_
    -- One writer less is still to come, and one retry is left less.
    have hless : (fun q => if q = p then races p - 1 else races q) p ≤ n := by
      simp only [if_true]
      omega
    obtain ⟨_, g, hrun, stored, latest, rfl, hdeployed, hg⟩ :=
      ih hg hkey (Held.withTemplate _ t) hp hless
    refine ⟨_, g, hrun, stored, latest, rfl, ⟨hdeployed.id, hdeployed.spec, hdeployed.replicas⟩, ?_⟩
    have hsettled : settled (fun q => if q = p then races p - 1 else races q) p =
        settled races p := by
      funext q
      by_cases hq : q = p <;> simp [settled, hq]
    have hcount : updates + 1 + (1 + (races p - 1)) = updates + (1 + races p) := by omega
    simp only [hsettled, if_true, hcount] at hg
    exact hg

/-- The verifier judges what the store holds. -/
theorem reaches_verifyRevision (h : f.Shows start id current races persisted updates)
    (want : String) :
    Reaches (Fleet.answer v id) f (verifyRevision want id p) fun r g =>
      r = current.status.converged id want p ∧
        g.Shows start id current races persisted updates := by
  rw [verifyRevision]
  refine Fleet.reaches_note h (by rw [Fleet.answer, h.get]) rfl fun g hg => ?_
  exact .done ⟨rfl, hg⟩

/-- A poll whose check succeeds succeeds in its first round. -/
theorem reaches_poll {rounds : Nat} {b : Backoff} {check : Program (Option (Except Failure Unit))}
    (hrounds : 0 < rounds) (h : f.Shows start id current races persisted updates)
    (hcheck : ∀ g : Fleet, g.Shows start id current races persisted updates →
      Reaches (Fleet.answer v id) g check fun r g' =>
        r = some (.ok ()) ∧ g'.Shows start id current races persisted updates) :
    Reaches (Fleet.answer v id) f (poll rounds b check) fun r g =>
      (∃ n, r = .ok n) ∧ g.Shows start id current races persisted updates := by
  obtain ⟨rounds, rfl⟩ := Nat.exists_eq_succ_of_ne_zero (Nat.ne_of_gt hrounds)
  rw [poll]
  refine Fleet.reaches_note h rfl rfl fun g hg => ?_
  rw [pollFrom]
  refine Fleet.reaches_note hg rfl rfl fun g hg => ?_
  refine .bind (hcheck g hg) ?_
  rintro _ g ⟨rfl, hg⟩
  exact .done ⟨⟨_, rfl⟩, hg⟩

/-- An ordinal that has reported is updated, and the working copy is then the set in the store. -/
theorem reaches_updateOrdinal {retry : ConflictRetry} {jitter : Bool} {rounds : Nat}
    {timing : Timing} (h : f.Shows start id current races persisted updates)
    (hkey : current.id.key = id.key) (hheld : Held t current working)
    (himage : Text.isBlankText t.image = false) (hp : p < current.spec.replicas)
    (hraces : races p ≤ retry.retries) (hrounds : 0 < rounds) {r : ReplicaStatus}
    (hr : current.status.replica? p = some r) :
    Reaches (Fleet.answer v id) f
      ((⟨.revision, retry, jitter, rounds⟩ : Strategy).updateOrdinal (.external timing) id working
        p)
      fun r g => ∃ latest, r = (latest, .ok ()) ∧
        g.ShowsUpdate start id t p current races persisted updates latest := by
  obtain rfl := hheld.template
  rw [Strategy.updateOrdinal]
  refine Fleet.reaches_note h rfl rfl fun g hg => ?_
  have hbase : Held working.spec.template current
      ((working.withPartition p).withTemplate working.spec.template) :=
    ⟨hheld.key, hheld.version, rfl, hheld.replicas⟩
  refine .bind (reaches_updateWithin hg hkey hbase himage hp hraces) ?_
  rintro _ g ⟨stored, latest, rfl, hdeployed, hg⟩
  have hconverged : latest.status.converged id working.spec.template.revision p = .ok () :=
    WorkloadStatus.converged_deploy hdeployed.replicas (UInt32.le_refl p) hr
  refine .bind (reaches_poll hrounds hg fun g hg => ?_) ?_
  · refine .bind (reaches_verifyRevision hg working.spec.template.revision) ?_
    rintro _ g ⟨rfl, hg⟩
    exact .done ⟨congrArg some hconverged, hg⟩
  rintro _ g ⟨⟨n, rfl⟩, hg⟩
  refine Fleet.reaches_note hg (by rw [Fleet.answer, hg.get]) rfl fun g hg => ?_
  exact Fleet.reaches_note hg rfl rfl fun g hg => .done ⟨latest, rfl, hdeployed, hg⟩

/-! ## Between two ordinals -/

/-- What is true when the `count` lowest ordinals are left. Those above run the template, those that
are left are as they were in the set that the rollout began with, the working copy is current, and
the set carries the partition that was made durable last. -/
structure Midway (id : WorkloadId) (first : WorkloadSet) (t : Template) (count : Nat)
    (persisted : List UInt32) (current working : WorkloadSet) : Prop where
  key : current.id.key = id.key
  held : Held t current working
  replicas : current.spec.replicas = first.spec.replicas
  spec : ∀ p, persisted.getLast? = some p → current.spec = ⟨first.spec.replicas, t, some p⟩
  above : ∀ p < first.spec.replicas, count ≤ p.toNat →
    current.status.converged id t.revision p = .ok ()
  below : ∀ p : UInt32, p.toNat < count →
    current.status.replica? p = first.status.replica? p

/-- Every replica has reported and serves. -/
def WorkloadSet.Serves (w : WorkloadSet) : Prop :=
  ∀ p < w.spec.replicas, ∃ r, w.status.replica? p = some r ∧ r.ready = true

/-- A replica that serves has converged to what it runs. -/
theorem WorkloadSet.Serves.converged_iff (h : first.Serves) (id : WorkloadId)
    (hp : p < first.spec.replicas) (revision : String) :
    first.status.converged id revision p = .ok () ↔ first.runs revision p = true := by
  obtain ⟨r, hr, hready⟩ := h p hp
  simp [WorkloadStatus.converged_eq_ok_iff, WorkloadSet.runs, hr, hready]

theorem WorkloadSet.Serves.converged_eq_error (h : first.Serves) (id : WorkloadId)
    (hp : p < first.spec.replicas) {revision : String} (hruns : first.runs revision p = false) :
    ∃ cause, first.status.converged id revision p = .error cause := by
  cases hverdict : first.status.converged id revision p with
  | ok _ =>
    rw [(h.converged_iff id hp revision).1 hverdict] at hruns
    cases hruns
  | error cause => exact ⟨cause, rfl⟩

namespace Midway

variable {count : Nat}

/-- Nothing is known to be done at the start. -/
theorem initial (hkey : first.id.key = id.key) (t : Template) :
    Midway id first t first.spec.replicas.toNat [] first (first.withTemplate t) := by
  refine ⟨hkey, .withTemplate first t, rfl, by simp, ?_, fun _ _ => rfl⟩
  intro p hlt hle
  exact absurd (UInt32.lt_iff_toNat_lt.1 hlt) (Nat.not_lt.2 hle)

/-- The pre-check of the next ordinal says what it ran at the start. -/
theorem converged_next (h : Midway id first t (count + 1) persisted current working)
    (hp : p.toNat = count) (revision : String) :
    current.status.converged id revision p = first.status.converged id revision p := by
  rw [WorkloadStatus.converged, WorkloadStatus.converged, h.below p (by omega)]

/-- An ordinal that converged before can be left behind. -/
theorem skip (h : Midway id first t (count + 1) persisted current working)
    (hp : p.toNat = count) (hconverged : first.status.converged id t.revision p = .ok ()) :
    Midway id first t count persisted current working := by
  refine ⟨h.key, h.held, h.replicas, h.spec, ?_, fun q hq => h.below q (by omega)⟩
  intro q hlt hle
  rcases Nat.eq_or_lt_of_le hle with heq | hgt
  · obtain rfl : p = q := UInt32.toNat_inj.1 (hp.trans heq)
    rw [h.converged_next hp, hconverged]
  · exact h.above q hlt hgt

/-- So can one that was updated. -/
theorem update (h : Midway id first t (count + 1) persisted current working)
    (hp : p.toNat = count) (hserves : first.Serves) (hdeployed : Deployed t p current latest) :
    Midway id first t count (persisted ++ [p]) latest latest := by
  have hspec : latest.spec = ⟨first.spec.replicas, t, some p⟩ := by
    rw [hdeployed.spec, h.replicas]
  refine ⟨?_, ⟨rfl, rfl, by rw [hspec], rfl⟩, by rw [hspec], ?_, ?_, ?_⟩
  · rw [hdeployed.id, h.key]
  · intro q hq
    obtain rfl : p = q := by simpa using hq
    exact hspec
  · intro q hlt hle
    -- Whatever is not below the partition has reported, now or at the start.
    obtain ⟨r, hr⟩ : ∃ r, current.status.replica? q = some r := by
      rcases Nat.eq_or_lt_of_le hle with heq | hgt
      · obtain ⟨r, hr, -⟩ := hserves q hlt
        exact ⟨r, by rw [h.below q (by omega), hr]⟩
      · obtain ⟨r, hr, -⟩ := WorkloadStatus.converged_eq_ok_iff.1 (h.above q hlt hgt)
        exact ⟨r, hr⟩
    exact WorkloadStatus.converged_deploy hdeployed.replicas
      (UInt32.le_iff_toNat_le.2 (hp ▸ hle)) hr
  · intro q hq
    rw [WorkloadStatus.replica?_deploy_of_lt hdeployed.replicas
      (UInt32.lt_iff_toNat_lt.2 (by omega)), h.below q (by omega)]

end Midway

/-! ## The walk -/

/-- The number of updates that ordinals take: for each, one for every writer that is faster and one
more. -/
def updatesFor (races : UInt32 → Nat) : List UInt32 → Nat
  | [] => 0
  | p :: ordinals => 1 + races p + updatesFor races ordinals

theorem updatesFor_congr {races races' : UInt32 → Nat} {ordinals : List UInt32}
    (h : ∀ p ∈ ordinals, races' p = races p) :
    updatesFor races' ordinals = updatesFor races ordinals := by
  induction ordinals with
  | nil => rfl
  | cons p ordinals ih =>
    obtain ⟨hp, hordinals⟩ := List.forall_mem_cons.1 h
    rw [updatesFor, updatesFor, hp, ih hordinals]

/-- **The walk.** Every ordinal that is left and did not run the template before is updated, the
others are skipped, and the walk is completed. -/
theorem reaches_walk {retry : ConflictRetry} {jitter : Bool} {rounds : Nat} {timing : Timing}
    {count : Nat} {skipped : Bool} (h : f.Shows start id current races persisted updates)
    (hmidway : Midway id first t count persisted current working) (hserves : first.Serves)
    (himage : Text.isBlankText t.image = false) (hcount : count ≤ first.spec.replicas.toNat)
    (hraces : ∀ p ∈ first.outdated t.revision count, races p ≤ retry.retries)
    (hrounds : 0 < rounds) :
    Reaches (Fleet.answer v id) f
      ((⟨.revision, retry, jitter, rounds⟩ : Strategy).walk (.external timing) id count working
        skipped)
      fun r g => ∃ latest current races', r = (latest,
          .completed (if count = 0 then skipped else first.runs t.revision 0)) ∧
        Midway id first t 0 (persisted ++ first.outdated t.revision count) current latest ∧
        g.Shows start id current races' (persisted ++ first.outdated t.revision count)
          (updates + updatesFor races (first.outdated t.revision count)) := by
  induction count generalizing f current working races persisted updates skipped with
  | zero =>
    rw [Strategy.walk]
    refine .done ⟨working, current, races, rfl, ?_, ?_⟩
    · simpa [WorkloadSet.outdated, descending] using hmidway
    · simpa [WorkloadSet.outdated, descending, updatesFor] using h
  | succ count ih =>
    have hsize : count < UInt32.size :=
      Nat.lt_of_lt_of_le hcount (Nat.le_of_lt first.spec.replicas.toNat_lt)
    have hp : (UInt32.ofNat count).toNat = count := UInt32.toNat_ofNat_of_lt' hsize
    have hlt : UInt32.ofNat count < first.spec.replicas := UInt32.lt_iff_toNat_lt.2 (by omega)
    have hlast : ∀ b : Bool, first.runs t.revision (.ofNat count) = b →
        (if count = 0 then b else first.runs t.revision 0) = first.runs t.revision 0 := by
      rintro b rfl
      split
      next hzero => rw [hzero]; rfl
      next => rfl
    have hnext := hmidway.converged_next hp t.revision
    have htemplate : working.updateRevision = t.revision :=
      congrArg Template.revision hmidway.held.template
    rw [WorkloadSet.outdated_succ] at hraces ⊢
    rw [Strategy.walk]
    refine Fleet.reaches_note h rfl rfl fun g hg => ?_
    refine .bind (reaches_verifyRevision hg working.updateRevision) ?_
    rintro _ g ⟨rfl, hg⟩
    rw [htemplate, hnext]
    cases hruns : first.runs t.revision (.ofNat count) with
    | true =>
      have hconverged := (hserves.converged_iff id hlt t.revision).2 hruns
      simp only [hconverged]
      simp only [hruns, if_true] at hraces ⊢
      refine (ih hg (hmidway.skip hp hconverged) (by omega) hraces).mono ?_
      rw [hlast true hruns]
      exact fun _ _ h => h
    | false =>
      obtain ⟨cause, hfailed⟩ := hserves.converged_eq_error id hlt hruns
      simp only [hfailed]
      simp only [hruns, Bool.false_eq_true, if_false, List.forall_mem_cons] at hraces ⊢
      obtain ⟨r, hr, -⟩ := hserves _ hlt
      rw [← hmidway.below _ (by omega)] at hr
      refine .bind (reaches_updateOrdinal hg hmidway.key hmidway.held himage
        (hmidway.replicas ▸ hlt) hraces.1 hrounds hr) ?_
      rintro _ g ⟨latest, rfl, hdeployed, hg⟩
      -- The writers that were faster are done, and none of them was about an ordinal below.
      have hothers : ∀ q ∈ first.outdated t.revision count,
          settled races (.ofNat count) q = races q :=
        fun q hq => settled_of_mem_descending hsize (List.mem_filter.1 hq).1
      have hbudget : ∀ q ∈ first.outdated t.revision count,
          settled races (.ofNat count) q ≤ retry.retries := by
        intro q hq
        rw [hothers q hq]
        exact hraces.2 q hq
      refine (ih hg (hmidway.update hp hserves hdeployed) (by omega) hbudget).mono ?_
      rw [hlast false hruns, List.append_assoc, Nat.add_assoc, updatesFor_congr hothers]
      exact fun _ _ h => h

/-! ## The whole rollout -/

theorem WorkloadSet.mem_outdated {revision : String} :
    p ∈ first.outdated revision first.spec.replicas.toNat ↔
      p < first.spec.replicas ∧ first.runs revision p = false := by
  rw [outdated, List.mem_filter, mem_descending (Nat.le_of_lt first.spec.replicas.toNat_lt),
    UInt32.lt_iff_toNat_lt, Bool.not_eq_true']

/-- The ordinal that is updated last is the lowest that did not run the revision. -/
theorem WorkloadSet.getLast?_outdated {revision : String} (hp : p < first.spec.replicas)
    (hruns : first.runs revision p = false)
    (hlowest : ∀ q < p, first.runs revision q = true) :
    (first.outdated revision first.spec.replicas.toNat).getLast? = some p := by
  have hdown : (first.outdated revision first.spec.replicas.toNat).Pairwise (· > ·) :=
    (descending_pairwise (Nat.le_of_lt first.spec.replicas.toNat_lt)).filter _
  obtain ⟨q, hlast, hle⟩ := getLast?_le_of_pairwise hdown (mem_outdated.2 ⟨hp, hruns⟩)
  rcases UInt32.lt_or_eq_of_le hle with hlt | rfl
  · obtain ⟨-, hq⟩ := mem_outdated.1 (List.mem_of_getLast? hlast)
    rw [hlowest q hlt] at hq
    cases hq
  · exact hlast

end

/-- The template of a set with another image. -/
def WorkloadSet.templateWith (w : WorkloadSet) (image : String) : Template :=
  { w.spec.template with image := image }

/-- What a rollout of a template has done to a set that was stored as `first`. -/
structure RolledOut (v : Surroundings) (id : WorkloadId) (start : Store) (first : WorkloadSet)
    (t : Template) (races : UInt32 → Nat) (f : Fleet) : Prop where
  /-- The partitions made durable are the ordinals that did not run the template, highest first. -/
  persisted : f.log.filterMap Exchange.persisted? =
    first.outdated t.revision first.spec.replicas.toNat
  /-- Each of them took one update for every writer that was faster, and one more. -/
  updates : f.log.countP Exchange.isUpdate =
    updatesFor races (first.outdated t.revision first.spec.replicas.toNat)
  /-- Every ordinal verifies. -/
  verifies : ∀ p < first.spec.replicas,
    ((verifyRevision t.revision id p).run (Fleet.answer v id) f).1 = .ok (.ok ())
  /-- The set has the template, and the partition at the lowest ordinal that did not run it. -/
  stored : ∀ p < first.spec.replicas, first.runs t.revision p = false →
    (∀ q < p, first.runs t.revision q = true) → ∃ w, f.store.entry id.key = .ok (some w) ∧
      w.spec = { first.spec with template := t, partition := some p }
  /-- If all ordinals ran it, nothing is written. -/
  untouched : (∀ p < first.spec.replicas, first.runs t.revision p = true) → f.store = start

/-- What a walk leaves behind at its end is what a rollout has to do. -/
theorem Fleet.Shows.rolledOut {v : Surroundings} {id : WorkloadId} {start : Store} {f : Fleet}
    {first current latest : WorkloadSet} {t : Template} {races races' : UInt32 → Nat}
    (h : f.Shows start id current races' ([] ++ first.outdated t.revision first.spec.replicas.toNat)
      (0 + updatesFor races (first.outdated t.revision first.spec.replicas.toNat)))
    (hmidway : Midway id first t 0 ([] ++ first.outdated t.revision first.spec.replicas.toNat)
      current latest) : RolledOut v id start first t races f := by
  rw [List.nil_append, Nat.zero_add] at h
  rw [List.nil_append] at hmidway
  refine ⟨h.durable, h.tried, ?_, ?_, ?_⟩
  · intro p hp
    obtain ⟨_, g, hrun, rfl, -⟩ := reaches_verifyRevision (v := v) (p := p) h t.revision
    rw [hrun, hmidway.above p hp (Nat.zero_le _)]
  · intro p hp hruns hlowest
    exact ⟨current, h.entry, hmidway.spec p (WorkloadSet.getLast?_outdated hp hruns hlowest)⟩
  · intro hall
    have hnone : first.outdated t.revision first.spec.replicas.toNat = [] := by
      refine List.eq_nil_iff_forall_not_mem.2 ?_
      intro p hp
      obtain ⟨hlt, hruns⟩ := WorkloadSet.mem_outdated.1 hp
      rw [hall p hlt] at hruns
      cases hruns
    exact h.untouched (by rw [hnone]; rfl)

/-- **Convergence.** A set is stored all of whose replicas serve, and an image is rolled out to it
that is not blank. The agents act right after each update that is stored, and the status writes that
come in between are fewer for each ordinal than the attempts that it may take. Then the rollout is
reported as completed, without a sleep exactly if there are replicas and the lowest one ran the
template before, and it has done what it should and no more. -/
theorem rollOutSuite_converges (v : Surroundings) {id : WorkloadId} {start : Store}
    {first : WorkloadSet} {image : String} {races : UInt32 → Nat} {retry : ConflictRetry}
    {jitter : Bool} {rounds : Nat} {timing : Timing}
    (hstored : start.entry id.key = .ok (some first)) (hkey : first.id.key = id.key)
    (hserves : first.Serves) (himage : Text.isBlankText image = false)
    (hraces : ∀ p < first.spec.replicas, first.runs (first.templateWith image).revision p = false →
      races p < max 1 retry.maxAttempts.toNat)
    (hrounds : 0 < rounds) :
    ∃ f, (rollOutSuite (.external timing)
        ⟨imageTransform image, ⟨.revision, retry, jitter, rounds⟩⟩ id).run (Fleet.answer v id)
        ⟨start, races, []⟩ =
      (.ok (.completed (0 < first.spec.replicas ∧
        first.runs (first.templateWith image).revision 0 = true)), f) ∧
      RolledOut v id start first (first.templateWith image) races f := by
  let t := first.templateWith image
  have hbudget : ∀ p ∈ first.outdated t.revision first.spec.replicas.toNat,
      races p ≤ retry.retries := by
    intro p hp
    obtain ⟨hlt, hruns⟩ := WorkloadSet.mem_outdated.1 hp
    have hlt := hraces p hlt hruns
    unfold ConflictRetry.retries
    omega
  have hstart : Fleet.Shows start id ⟨start, races, []⟩ first races [] 0 :=
    ⟨hstored, rfl, rfl, rfl, fun _ => rfl⟩
  have htransform : imageTransform image first = .done (.ok (first.withTemplate t)) := by
    rw [imageTransform, setImage, himage]
    rfl
  have hskip : (if first.spec.replicas.toNat = 0 then false else first.runs t.revision 0) =
      decide (0 < first.spec.replicas ∧ first.runs t.revision 0 = true) := by
    by_cases hzero : first.spec.replicas = 0
    · simp [hzero]
    · have hne : first.spec.replicas.toNat ≠ 0 := fun h => hzero (UInt32.toNat_inj.1 h)
      simp [hne, UInt32.pos_iff_ne_zero.2 hzero]
  have hrun : Reaches (Fleet.answer v id) ⟨start, races, []⟩
      (rollOutSuite (.external timing)
        ⟨imageTransform image, ⟨.revision, retry, jitter, rounds⟩⟩ id)
      fun o f => o = .completed (0 < first.spec.replicas ∧ first.runs t.revision 0 = true) ∧
        RolledOut v id start first t races f := by
    rw [rollOutSuite]
    refine Fleet.reaches_note hstart (by rw [Fleet.answer, hstart.get]) rfl fun g hg => ?_
    simp only [htransform, done_bind]
    refine .bind (reaches_walk hg (Midway.initial hkey t) hserves himage (Nat.le_refl _) hbudget
      hrounds) ?_
    rintro _ f ⟨latest, current, races', rfl, hmidway, hf⟩
    exact .done ⟨congrArg Outcome.completed hskip, hf.rolledOut hmidway⟩
  obtain ⟨_, f, hrun, rfl, hdone⟩ := hrun
  exact ⟨f, hrun, hdone⟩

/-! ## A rollout that is resumed -/

namespace Resumed

/-- The set that is rolled out. -/
def id : WorkloadId :=
  ⟨"db", "a"⟩

/-- The revision that is asked for. -/
def wanted : String :=
  (Template.ofImage "v2").revision

/-- Two replicas that serve, the higher one with the image that is asked for. -/
def first : WorkloadSet :=
  withStatus (putOver none (.ofSpec id 2 (.ofImage "v1")))
    fun _ => ⟨0, [⟨0, wanted ++ "-old", true, none⟩, ⟨1, wanted, true, none⟩]⟩

/-- Somebody writes the status once while the lower one is updated. -/
def races (p : UInt32) : Nat :=
  if p = 0 then 1 else 0

theorem runs_zero : first.runs wanted 0 = false := by
  simp [WorkloadSet.runs, first, withStatus, WorkloadStatus.replica?]

theorem runs_one : first.runs wanted 1 = true := by
  simp [WorkloadSet.runs, first, withStatus, WorkloadStatus.replica?]

theorem lt_replicas_iff (p : UInt32) : p < first.spec.replicas ↔ p = 0 ∨ p = 1 := by
  show p < 2 ↔ _
  simp only [UInt32.lt_iff_toNat_lt, ← UInt32.toNat_inj]
  show p.toNat < 2 ↔ p.toNat = 0 ∨ p.toNat = 1
  omega

theorem serves : first.Serves := by
  intro p hp
  rcases (lt_replicas_iff p).1 hp with rfl | rfl
  · exact ⟨_, rfl, rfl⟩
  · exact ⟨_, rfl, rfl⟩

end Resumed

/-- The replica that already runs the image is skipped, the other one is updated at the second
attempt. -/
theorem rollOutSuite_converges_resumed :
    ∃ f, (rollOutSuite (.external .standard)
        ⟨imageTransform "v2", ⟨.revision, .standard, true, 1⟩⟩ Resumed.id).run
        (Fleet.answer ⟨fun _ => 7, fun _ => .zero⟩ Resumed.id)
        ⟨Store.empty.write Resumed.id.key Resumed.first, Resumed.races, []⟩ =
      (.ok (.completed false), f) ∧
      f.log.filterMap Exchange.persisted? = [0] ∧ f.log.countP Exchange.isUpdate = 2 ∧
      ∃ w, f.store.entry Resumed.id.key = .ok (some w) ∧
        w.spec = ⟨2, .ofImage "v2", some 0⟩ := by
  have hstored : (Store.empty.write Resumed.id.key Resumed.first).entry Resumed.id.key =
      .ok (some Resumed.first) := by simp
  have hraces : ∀ p < Resumed.first.spec.replicas,
      Resumed.first.runs (Resumed.first.templateWith "v2").revision p = false →
      Resumed.races p < max 1 ConflictRetry.standard.maxAttempts.toNat := by
    intro p hp _
    rcases (Resumed.lt_replicas_iff p).1 hp with rfl | rfl <;> decide
  obtain ⟨f, hrun, hdone⟩ := @rollOutSuite_converges ⟨fun _ => 7, fun _ => .zero⟩ Resumed.id _
    Resumed.first "v2" Resumed.races .standard true 1 .standard hstored rfl Resumed.serves
    (by decide) hraces Nat.one_pos
  have houtdated : Resumed.first.outdated Resumed.wanted 2 = [0] := by
    have hordinals : descending 2 = [1, 0] := by decide
    simp [WorkloadSet.outdated, hordinals, Resumed.runs_one, Resumed.runs_zero]
  have hnothing : decide (0 < Resumed.first.spec.replicas ∧
      Resumed.first.runs Resumed.wanted 0 = true) = false := by
    simp [Resumed.runs_zero]
  refine ⟨f, ?_, hdone.persisted.trans houtdated, ?_, ?_⟩
  · rw [hrun]
    exact congrArg (fun b => (Except.ok (Outcome.completed b), f)) hnothing
  · rw [hdone.updates]
    show updatesFor Resumed.races (Resumed.first.outdated Resumed.wanted 2) = 2
    rw [houtdated]
    rfl
  · refine hdone.stored 0 (by decide) Resumed.runs_zero ?_
    intro q hq
    exact absurd hq UInt32.not_lt_zero

end PartitionedRollout
