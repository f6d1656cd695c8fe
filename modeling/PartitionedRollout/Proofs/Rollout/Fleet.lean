/-
# PartitionedRollout.Proofs.Rollout.Fleet -- a store with agents and other writers around it

A fleet answers the requests of a rollout from a store. Right after an update is stored, agents
bring every replica at or above its partition to its template. Other writers change the status of
the set just before an update is looked at, and so make the copy that it was made from stale; how
often they do is given for each partition. Everybody else cooperates: the gates pass and nobody says
stop.

What a rollout can see of a fleet is put together in `Shows`. Every call but an update leaves it as
it is, and for an update there is one lemma for the case that somebody writes in between and one for
the case that nobody does.
-/

import PartitionedRollout.Proofs.Rollout.Order
import PartitionedRollout.Proofs.Store.Entry

namespace PartitionedRollout

open Program Store

/-! ## Programs that reach an end -/

namespace Program

variable {σ α β : Type} {answer : σ → (r : Request) → r.Reply × σ} {s : σ}

/-- Answered from a state, a program ends in a value, and `post` holds of the value and of the state
that is left. -/
def Reaches (answer : σ → (r : Request) → r.Reply × σ) (s : σ) (m : Program α)
    (post : α → σ → Prop) : Prop :=
  ∃ a s', m.run answer s = (.ok a, s') ∧ post a s'

theorem run_bind (m : Program α) (f : α → Program β) (s : σ) :
    (m >>= f).run answer s =
      match m.run answer s with
      | (.ok a, s') => (f a).run answer s'
      | (.error h, s') => (.error h, s') := by
  induction m generalizing s with
  | done => rfl
  | halt => rfl
  | ask r next ih => exact ih _ _

namespace Reaches

variable {post : β → σ → Prop}

theorem done {b : β} (h : post b s) : Reaches answer s (.done b) post :=
  ⟨b, s, rfl, h⟩

theorem mono {m : Program β} {weaker : β → σ → Prop} (h : Reaches answer s m post)
    (hpost : ∀ b t, post b t → weaker b t) : Reaches answer s m weaker := by
  obtain ⟨b, t, hrun, hb⟩ := h
  exact ⟨b, t, hrun, hpost b t hb⟩

theorem call {r : Request} {f : r.Reply → Program β} {x : r.Reply} {s' : σ}
    (hx : answer s r = (x, s')) (h : Reaches answer s' (f x) post) :
    Reaches answer s (.call r >>= f) post := by
  obtain ⟨b, t, hrun, hpost⟩ := h
  refine ⟨b, t, ?_, hpost⟩
  show (f (answer s r).1).run answer (answer s r).2 = (.ok b, t)
  rw [hx]
  exact hrun

theorem bind {m : Program α} {f : α → Program β} {mid : α → σ → Prop}
    (hm : Reaches answer s m mid) (hf : ∀ a t, mid a t → Reaches answer t (f a) post) :
    Reaches answer s (m >>= f) post := by
  obtain ⟨a, t, hfirst, hmid⟩ := hm
  obtain ⟨b, u, hsecond, hpost⟩ := hf a t hmid
  refine ⟨b, u, ?_, hpost⟩
  rw [run_bind, hfirst]
  exact hsecond

end Reaches

end Program

/-! ## Agents -/

/-- What an agent makes of a replica: at or above the partition it runs a revision and serves. -/
def ReplicaStatus.deploy (partition : UInt32) (revision : String) (r : ReplicaStatus) :
    ReplicaStatus :=
  if partition ≤ r.ordinal then { r with revision := revision, ready := true } else r

/-- What agents make of a status, for a set whose update was stored. -/
def WorkloadStatus.deploy (s : WorkloadStatus) (stored : WorkloadSet) (observed : UInt64) :
    WorkloadStatus :=
  ⟨observed, s.replicas.map (·.deploy (stored.spec.partition.getD 0) stored.updateRevision)⟩

@[simp]
theorem ReplicaStatus.deploy_ordinal (partition : UInt32) (revision : String) (r : ReplicaStatus) :
    (r.deploy partition revision).ordinal = r.ordinal := by
  unfold deploy
  split <;> rfl

/-- Agents act on every entry, so on the one that counts. -/
theorem WorkloadStatus.replica?_deploy {s s' : WorkloadStatus} {partition : UInt32}
    {revision : String} (h : s'.replicas = s.replicas.map (·.deploy partition revision))
    (ordinal : UInt32) :
    s'.replica? ordinal = (s.replica? ordinal).map (·.deploy partition revision) := by
  simp only [replica?, h, List.find?_map]
  congr 2
  funext r
  simp

/-- A replica has the ordinal that it was looked up by. -/
theorem WorkloadStatus.ordinal_of_replica? {s : WorkloadStatus} {ordinal : UInt32}
    {r : ReplicaStatus} (h : s.replica? ordinal = some r) : r.ordinal = ordinal := by
  simpa using List.find?_some h

/-! ## Fleets -/

/-- What is left open about those around a rollout. It may depend on the calls so far. -/
structure Surroundings where
  /-- The generation that a report is about. -/
  observed : List Exchange → UInt64
  /-- The time. -/
  clock : List Exchange → TimeSpan

/-- A store and those around it. -/
structure Fleet where
  /-- The store. -/
  store : Store
  /-- How often somebody else will still write the status before an update to a partition. -/
  races : UInt32 → Nat
  /-- The calls of the rollout so far, in order. -/
  log : List Exchange

/-- The store after somebody has written a status. -/
def Store.afterStatus (s : Store) (id : WorkloadId) (f : WorkloadStatus → WorkloadStatus) : Store :=
  (s.perform .memory (.updateStatus id f)).2

namespace Fleet

/-- A request is answered and nothing else happens. -/
def note (f : Fleet) (r : Request) (x : r.Reply) : r.Reply × Fleet :=
  (x, { f with log := f.log ++ [⟨r, x⟩] })

variable (v : Surroundings) (id : WorkloadId)

/-- The fleet after somebody has written the status before an update to a partition, if anybody is
still going to. No report on a replica changes. -/
def race (f : Fleet) : Option UInt32 → Fleet
  | none => f
  | some p =>
    if f.races p = 0 then f
    else
      { f with
        store := f.store.afterStatus id fun status => ⟨v.observed f.log, status.replicas⟩
        races := fun q => if q = p then f.races p - 1 else f.races q }

/-- The answer to an update. Others are faster if they want to be, and agents act right after it. -/
def update (f : Fleet) (w : WorkloadSet) : Except StoreError WorkloadSet × Fleet :=
  let raced := f.race v id w.spec.partition
  match raced.store.update w with
  | .error e => (.error e, raced)
  | .ok (stored, s) =>
    (.ok stored, { raced with store := s.afterStatus id (·.deploy stored (v.observed f.log)) })

/-- The answer to a request. Gates pass, nobody says stop, and whoever is outside agrees. -/
def answer (f : Fleet) : (r : Request) → r.Reply × Fleet
  | .get i => f.note (.get i) (f.store.get i)
  | .update w => (f.update v id w).2.note (.update w) (f.update v id w).1
  | .transform w => f.note (.transform w) (.ok w)
  | .verify p w => f.note (.verify p w) (.ok ())
  | .check p w => f.note (.check p w) (some (.ok ()))
  | .awaitReady => f.note .awaitReady (.ok ())
  | .probeHealth checkpoint p => f.note (.probeHealth checkpoint p) (.ok ())
  | .stopping => f.note .stopping false
  | .sleep d => f.note (.sleep d) false
  | .now => f.note .now (v.clock f.log)
  | .draw d factor => f.note (.draw d factor) (some d)
  | .fetch request timeout => f.note (.fetch request timeout) (some 200)

theorem answer_update (f : Fleet) (w : WorkloadSet) :
    f.answer v id (.update w) = (f.update v id w).2.note (.update w) (f.update v id w).1 :=
  rfl

@[simp]
theorem persisted_note (f : Fleet) (r : Request) (x : r.Reply) :
    (f.note r x).2.log.filterMap Exchange.persisted? =
      f.log.filterMap Exchange.persisted? ++ (Exchange.persisted? ⟨r, x⟩).toList := by
  rw [note, List.filterMap_append]
  cases h : Exchange.persisted? ⟨r, x⟩ <;> simp [h]

@[simp]
theorem updates_note (f : Fleet) (r : Request) (x : r.Reply) :
    (f.note r x).2.log.countP Exchange.isUpdate =
      f.log.countP Exchange.isUpdate + if Exchange.isUpdate ⟨r, x⟩ then 1 else 0 := by
  rw [note, List.countP_append, List.countP_singleton]

/-! ## What a rollout sees of a fleet -/

/-- The set in the store, the writes of others that are still to come, the partitions that were made
durable, and the number of updates that were tried. Without any, the store is as it was at the
start. -/
structure Shows (start : Store) (id : WorkloadId) (f : Fleet) (current : WorkloadSet)
    (races : UInt32 → Nat) (persisted : List UInt32) (updates : Nat) : Prop where
  entry : f.store.entry id.key = .ok (some current)
  coming : f.races = races
  durable : f.log.filterMap Exchange.persisted? = persisted
  tried : f.log.countP Exchange.isUpdate = updates
  untouched : updates = 0 → f.store = start

variable {v id} {start : Store} {f : Fleet} {current : WorkloadSet} {races : UInt32 → Nat}
  {persisted : List UInt32} {updates : Nat}

/-- A call that is no update leaves everything as it is. -/
theorem Shows.note (h : f.Shows start id current races persisted updates) {r : Request}
    {x : r.Reply} (hr : Exchange.isUpdate ⟨r, x⟩ = false) :
    (f.note r x).2.Shows start id current races persisted updates := by
  have hpersisted : Exchange.persisted? ⟨r, x⟩ = none := by
    cases r with
    | update w => cases hr
    | _ => rfl
  refine ⟨h.entry, h.coming, ?_, ?_, h.untouched⟩
  · simp [hpersisted, h.durable]
  · simp [hr, h.tried]

/-- So a program goes on from a fleet that shows the same. -/
theorem reaches_note {α : Type} {r : Request} {x : r.Reply} {k : r.Reply → Program α}
    {post : α → Fleet → Prop} (h : f.Shows start id current races persisted updates)
    (hx : f.answer v id r = f.note r x) (hr : Exchange.isUpdate ⟨r, x⟩ = false)
    (hk : ∀ g : Fleet, g.Shows start id current races persisted updates →
      Reaches (answer v id) g (k x) post) : Reaches (answer v id) f (.call r >>= k) post :=
  .call hx (hk _ (h.note hr))

theorem Shows.get (h : f.Shows start id current races persisted updates) :
    f.store.get id = .ok current :=
  get_eq_ok_iff.2 h.entry

theorem afterStatus_of_entry {s : Store} (h : s.entry id.key = .ok (some current))
    (g : WorkloadStatus → WorkloadStatus) :
    s.afterStatus id g = s.write id.key (withStatus current g) := by
  have hstatus : s.updateStatus id g = .ok _ := updateStatus_eq_ok_iff.2 ⟨current, h, rfl, rfl⟩
  rw [Store.afterStatus, perform, answerWrite_of_ok hstatus]

/-- The fleet after an update that somebody else was faster than, and what it shows: the set has a
new status that says the same of every replica. -/
theorem Shows.update_raced (h : f.Shows start id current races persisted updates) {w : WorkloadSet}
    {p : UInt32} (hkey : w.id.key = id.key) (hspec : w.spec.fault? = none)
    (hpartition : w.spec.partition = some p)
    (hversion : w.resourceVersion = current.resourceVersion) (hraces : 0 < races p) :
    ∃ (e : StoreError) (g : Fleet) (latest : WorkloadSet),
      f.answer v id (.update w) = (.error e, g) ∧ e.isConflict = true ∧
      latest = { current with
        status := ⟨v.observed f.log, current.status.replicas⟩
        resourceVersion := current.resourceVersion + 1 } ∧
      g.Shows start id latest (fun q => if q = p then races p - 1 else races q) persisted
        (updates + 1) := by
  let latest := withStatus current fun status => ⟨v.observed f.log, status.replicas⟩
  let raced : Fleet :=
    { f with
      store := f.store.write id.key latest
      races := fun q => if q = p then races p - 1 else races q }
  have hraced : f.race v id w.spec.partition = raced := by
    have hne : races p ≠ 0 := Nat.ne_of_gt hraces
    rw [hpartition, race, h.coming, if_neg hne, afterStatus_of_entry h.entry]
  have hentry : raced.store.entry w.id.key = .ok (some latest) := by simp [raced, hkey]
  have hstale : latest.resourceVersion ≠ w.resourceVersion := by
    rw [hversion]
    show current.resourceVersion + 1 ≠ current.resourceVersion
    simp
  have hupdate := update_of_version_ne hspec hentry hstale
  let e := StoreError.conflict w.id.key w.resourceVersion latest.resourceVersion
  have hanswer : f.update v id w = (.error e, raced) := by
    rw [update, hraced]
    simp only [hupdate, e]
  refine ⟨e, (raced.note (.update w) (.error e)).2, latest, ?_, rfl, rfl, ?_⟩
  · rw [answer_update, hanswer]
    rfl
  refine ⟨by simp [raced, Fleet.note], rfl, ?_, ?_, ?_⟩
  · rw [persisted_note, show raced.log = f.log from rfl, h.durable]
    exact List.append_nil _
  · rw [updates_note, show raced.log = f.log from rfl, h.tried]
    rfl
  · omega

/-- The fleet after an update that nobody was faster than, and what it shows: the set has the new
specification, and the agents have acted on it. -/
theorem Shows.update_stored (h : f.Shows start id current races persisted updates)
    {w : WorkloadSet} {p : UInt32} (hkey : w.id.key = id.key) (hspec : w.spec.fault? = none)
    (hpartition : w.spec.partition = some p)
    (hversion : w.resourceVersion = current.resourceVersion) (hraces : races p = 0) :
    ∃ (stored : WorkloadSet) (g : Fleet) (latest : WorkloadSet),
      f.answer v id (.update w) = (.ok stored, g) ∧ latest.id = current.id ∧ latest.spec = w.spec ∧
      latest.status.replicas =
        current.status.replicas.map (·.deploy p w.spec.template.revision) ∧
      g.Shows start id latest races (persisted ++ [p]) (updates + 1) := by
  let stored := withSpec current w.spec
  let latest := withStatus stored (·.deploy stored (v.observed f.log))
  have hraced : f.race v id w.spec.partition = f := by
    rw [hpartition, race, h.coming, if_pos hraces]
  have hentry : f.store.entry w.id.key = .ok (some current) := by rw [hkey, h.entry]
  have hupdate : f.store.update w = .ok (stored, f.store.write w.id.key stored) :=
    update_eq_ok_iff.2 ⟨hspec, current, hentry, hversion.symm, rfl, rfl⟩
  have hreport :
      (f.store.write w.id.key stored).afterStatus id (·.deploy stored (v.observed f.log)) =
      (f.store.write w.id.key stored).write id.key latest :=
    afterStatus_of_entry (by simp [hkey]) _
  let deployed : Fleet := { f with store := (f.store.write w.id.key stored).write id.key latest }
  have hanswer : f.update v id w = (.ok stored, deployed) := by
    rw [update, hraced]
    simp only [hupdate, hreport, deployed]
  refine ⟨stored, (deployed.note (.update w) (.ok stored)).2, latest, ?_, rfl, rfl, ?_, ?_⟩
  · rw [answer_update, hanswer]
    rfl
  · show current.status.replicas.map
      (·.deploy (w.spec.partition.getD 0) w.spec.template.revision) = _
    rw [hpartition]
    rfl
  refine ⟨by simp [deployed, Fleet.note], h.coming, ?_, ?_, ?_⟩
  · rw [persisted_note, show deployed.log = f.log from rfl, h.durable]
    exact congrArg (fun o => persisted ++ o.toList) hpartition
  · rw [updates_note, show deployed.log = f.log from rfl, h.tried]
    rfl
  · omega

end Fleet

end PartitionedRollout
