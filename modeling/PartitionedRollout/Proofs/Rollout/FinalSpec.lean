/-
# PartitionedRollout.Proofs.Rollout.FinalSpec -- what a completed rollout leaves stored

A rollout writes the set only for the ordinals that a pre-check finds behind, and the last of these
writes decides what is stored in the end. So a rollout that completes leaves the template that it
was given, and the partition at the lowest ordinal that was behind; and it leaves the specification
as it was, whatever that asks for, if no ordinal was. The invariant of this is `Underway`: it
relates the stored set, the exchanges so far and the working copy at a stage, and neither a call of
another client that reports a status nor a move breaks it.
-/

import PartitionedRollout.Proofs.Rollout.Handler
import PartitionedRollout.Proofs.Rollout.Interleaving
import PartitionedRollout.Proofs.Rollout.Order

namespace PartitionedRollout

open Program Store

/-! ## Clients that only report -/

/-- Another client changes what is under a key only by a report on the status. -/
def StoreEvent.OnlyReports (key : String) : StoreEvent → Prop
  | own _ => True
  | foreign c => c.hits key = true → ∃ id f, c.operation = .updateStatus id f

/-- A report leaves the specification as it is. -/
theorem Store.spec_of_updateStatus {b : Backend} {s s' : Store} {id : WorkloadId} {key : String}
    {f : WorkloadStatus → WorkloadStatus} {a : StoreAnswer} {w : WorkloadSet}
    (h : s.perform b (.updateStatus id f) = (a, s'))
    (hhits : (⟨.updateStatus id f, a⟩ : StoreCall).hits key = true)
    (hw : s.entry key = .ok (some w)) :
    ∃ w', s'.entry key = .ok (some w') ∧ w'.spec = w.spec := by
  cases hr : s.updateStatus id f with
  | error e =>
    obtain ⟨rfl, -⟩ := Prod.mk.inj (h.symm.trans (answerWrite_of_error hr))
    cases hhits
  | ok r =>
    obtain ⟨stored, t⟩ := r
    obtain ⟨rfl, rfl⟩ := Prod.mk.inj (h.symm.trans (answerWrite_of_ok hr))
    obtain rfl : id.key = key := by
      simpa [StoreCall.hits, StoreCall.writes, StoreCall.removes, StoreOperation.target?]
        using hhits
    obtain ⟨current, hentry, rfl, rfl⟩ := updateStatus_eq_ok_iff.1 hr
    obtain rfl : current = w := by simpa [hentry] using hw
    exact ⟨withStatus current f, by simp, rfl⟩

/-- So do calls of clients that only report. -/
theorem Store.Calls.keeps_spec {b : Backend} {s s' : Store} {key : String} {calls : List StoreCall}
    {w : WorkloadSet} (h : Calls b s calls s') (hs : s.Sound)
    (hreports : ∀ c ∈ calls, (StoreEvent.foreign c).OnlyReports key)
    (hw : s.entry key = .ok (some w)) : ∃ w', s'.entry key = .ok (some w') ∧ w'.spec = w.spec := by
  induction h generalizing w with
  | nil => exact ⟨w, hw, rfl⟩
  | @cons s t _ op a calls client head _ ih =>
    obtain ⟨w₁, hw₁, hspec⟩ : ∃ w₁, t.entry key = .ok (some w₁) ∧ w₁.spec = w.spec := by
      cases hhits : (⟨op, a⟩ : StoreCall).hits key with
      | true =>
        obtain ⟨id, f, rfl⟩ := hreports ⟨op, a⟩ List.mem_cons_self hhits
        exact spec_of_updateStatus head hhits hw
      | false =>
        rcases acted_perform hs client head key with ⟨-, heq⟩ | ⟨hwrites, -⟩ | ⟨hremoves, -⟩
        · exact ⟨w, heq.trans hw, rfl⟩
        · simp [StoreCall.hits, hwrites] at hhits
        · simp [StoreCall.hits, hremoves] at hhits
    obtain ⟨w', hw', hspec'⟩ := ih (sound_perform hs client head)
      (fun c hc => hreports c (List.mem_cons_of_mem _ hc)) hw₁
    exact ⟨w', hw', hspec'.trans hspec⟩

/-! ## The ordinals that are behind -/

/-- The ordinal that a pre-check found behind. -/
def Program.Exchange.behind? : Exchange → Option UInt32
  | ⟨.verify p _, .error _⟩ => some p
  | _ => none

/-- The ordinal that was found behind and has not been updated yet. -/
def Stage.owed : Stage → List UInt32
  | .outdated p _ => [.ofNat p]
  | .ready p .. => [.ofNat p]
  | .refused p .. => [.ofNat p]
  | .rested p .. => [.ofNat p]
  | _ => []

section

variable {policy : ConflictRetry} {id : WorkloadId} {s u : Stage} {x y : Exchange}
  {calls es : List Exchange}

theorem Move.owed (h : Move policy id s x u) (hu : u ≠ .ended) :
    s.owed ++ x.behind?.toList = x.persisted?.toList ++ u.owed := by
  cases h with
  | interrupt | unready | reject | rouse | lose | giveUp | cut | wake | vanish | sicken =>
    exact absurd rfl hu
  | _ => rfl

/-- What a rollout makes durable is one partition for each ordinal that was behind, in order. -/
theorem Moves.owed (h : Moves policy id s calls u) (hu : u ≠ .ended) :
    s.owed ++ calls.filterMap Exchange.behind? =
      calls.filterMap Exchange.persisted? ++ u.owed := by
  induction h with
  | nil => simp
  | @cons s r u x calls head tail ih =>
    calc s.owed ++ (x :: calls).filterMap Exchange.behind?
        = (s.owed ++ x.behind?.toList) ++ calls.filterMap Exchange.behind? := by
          cases hx : x.behind? <;> simp [hx]
      _ = x.persisted?.toList ++ (r.owed ++ calls.filterMap Exchange.behind?) := by
          rw [head.owed (tail.ne_ended hu), List.append_assoc]
      _ = x.persisted?.toList ++ (calls.filterMap Exchange.persisted? ++ u.owed) := by rw [ih hu]
      _ = (x :: calls).filterMap Exchange.persisted? ++ u.owed := by
          cases hx : x.persisted? <;> simp [hx]

/-- The answers of the verifier that compares revisions make nothing durable. -/
theorem Program.Exchange.Answered.persisted? (h : x.Answered id y) :
    y.persisted? = x.persisted? := by
  obtain ⟨r, reply⟩ := x
  cases r with
  | verify | check =>
    obtain ⟨_, rfl, -⟩ := h
    rfl
  | _ =>
    obtain rfl := h
    rfl

theorem persisted_of_expands (h : Expands (Verifier.revision.answers id) calls es) :
    es.filterMap Exchange.persisted? = calls.filterMap Exchange.persisted? := by
  induction calls generalizing es with
  | nil =>
    cases h
    rfl
  | cons x calls ih =>
    obtain ⟨y, rest, rfl, hy, hrest⟩ := expands_revision_cons h
    rw [List.filterMap_cons, List.filterMap_cons, hy.persisted?, ih hrest]

/-! ## What holds between two calls -/

/-- A specification is what updates made of one: with no partition made durable it is that one, and
else it has the template and the last partition. -/
def WorkloadSpec.Follows (first : WorkloadSpec) (t : Template) (spec : WorkloadSpec) :
    Option UInt32 → Prop
  | none => spec = first
  | some p => spec.template = t ∧ spec.partition = some p

/-- The last partition that was made durable. -/
def lastPersisted? (log : List Exchange) : Option UInt32 :=
  (log.filterMap Exchange.persisted?).getLast?

/-- The set was read while a replica was reported to have converged to a revision. -/
def Reported (id : WorkloadId) (revision : String) (p : UInt32) (log : List Exchange) : Prop :=
  ∃ latest, ⟨.get id, .ok latest⟩ ∈ log ∧ latest.status.converged id revision p = .ok ()

/-- Whatever a rollout works with at a stage is a version of the set, and has the template. -/
def Stage.Carries (t : Template) (key : String) : Stage → Prop
  | .ready _ w _ base => (w.spec.template = t ∧ w.id.key = key) ∧ base.id.key = key
  | .between _ w | .cleared _ w | .outdated _ w | .refused _ w _ | .rested _ w _ | .polling _ _ w
  | .converged _ w | .reread _ w => w.spec.template = t ∧ w.id.key = key
  | .ended => True

/-- The ordinal at hand has been updated. -/
def Stage.HasUpdated : Stage → Prop
  | .polling _ _ _ => True
  | .converged _ _ => True
  | .reread _ _ => True
  | _ => False

/-- The ordinals from here on have been reported to have converged. -/
def Stage.unreported : Stage → Nat
  | .between count _ => count
  | .cleared p _ => p + 1
  | .outdated p _ => p + 1
  | .ready p .. => p + 1
  | .refused p .. => p + 1
  | .rested p .. => p + 1
  | .polling _ p _ => p + 1
  | .converged p _ => p
  | .reread p _ => p
  | .ended => 0

/-- What is stored, what was read and what the rollout works with fit together. The first three
fields are about the write of the last ordinal that was behind, the last one is about the ordinals
that are done. -/
structure Underway (id : WorkloadId) (first : WorkloadSpec) (t : Template) (count : Nat)
    (s : Stage) (log : List Exchange) (store : Store) : Prop where
  stored : ∃ current, store.entry id.key = .ok (some current) ∧
    first.Follows t current.spec (lastPersisted? log)
  carries : s.Carries t id.key
  updated : s.HasUpdated → (lastPersisted? log).isSome
  reported : ∀ q, s.unreported ≤ q → q < count → Reported id t.revision (.ofNat q) log

@[simp]
theorem lastPersisted?_append (log : List Exchange) (y : Exchange) :
    lastPersisted? (log ++ [y]) = y.persisted?.or (lastPersisted? log) := by
  cases hy : y.persisted? <;> simp [lastPersisted?, hy]

theorem Reported.append {revision : String} {p : UInt32} {log : List Exchange}
    (h : Reported id revision p log) (more : List Exchange) :
    Reported id revision p (log ++ more) := by
  obtain ⟨latest, hmem, hconverged⟩ := h
  exact ⟨latest, List.mem_append_left _ hmem, hconverged⟩

variable {t : Template} {key : String} {store store' : Store}

/-- A call that makes nothing durable leaves the store alone. -/
theorem Move.store_eq (h : Move policy id s x u) (hy : x.Answered id y)
    (hserved : y.Served store store') (hx : x.persisted? = none) : store' = store := by
  cases h with
  | persist => cases hx
  | skip | begin | hit | miss =>
    -- A question to the verifier is a reading of the set.
    obtain ⟨_, rfl, -⟩ := hy
    exact hserved.2
  | cut =>
    -- Comparing revisions is never cut short.
    obtain ⟨_, -, h⟩ := hy
    cases h
  | conflict | reject | retry | lose | reread | vanish =>
    obtain rfl := hy
    exact hserved.2
  | _ =>
    obtain rfl := hy
    exact hserved

/-- A call that makes a partition durable sends a version of the set with the template. -/
theorem Move.persisted (h : Move policy id s x u) (hs : s.Carries t key)
    (hx : x.persisted?.isSome) :
    ∃ sent stored, x = ⟨.update sent, .ok stored⟩ ∧ sent.id.key = key ∧
      sent.spec.template = t ∧ sent.spec.partition = x.persisted? := by
  cases h with
  | persist => exact ⟨_, _, rfl, hs.2, hs.1.1, rfl⟩
  | _ => cases hx

/-- What a call leaves stored follows from what it makes durable. -/
theorem Move.stored {first : WorkloadSpec} {last : Option UInt32} (h : Move policy id s x u)
    (hs : s.Carries t key) (hy : x.Answered id y) (hserved : y.Served store store')
    (hstored : ∃ current, store.entry key = .ok (some current) ∧
      first.Follows t current.spec last) :
    ∃ current, store'.entry key = .ok (some current) ∧
      first.Follows t current.spec (x.persisted?.or last) := by
  cases hx : x.persisted? with
  | none =>
    obtain rfl := h.store_eq hy hserved hx
    exact hstored
  | some p =>
    obtain ⟨sent, stored, rfl, rfl, rfl, hp⟩ := h.persisted hs (by simp [hx])
    obtain rfl := hy
    obtain ⟨-, current, -, -, rfl, rfl⟩ := update_eq_ok_iff.1 hserved
    exact ⟨withSpec current sent.spec, by simp, rfl, hp.trans hx⟩

/-- After an update the working copy is read anew, so it has the template that was stored. -/
theorem Move.carries (h : Move policy id s x u) (hs : s.Carries t key)
    (hread : ∀ latest, x = ⟨.get id, .ok latest⟩ →
      latest.id.key = key ∧ (s.HasUpdated → latest.spec.template = t)) : u.Carries t key := by
  cases h with
  | allow => exact ⟨hs, hs.2⟩
  | persist => exact hs.1
  | conflict => exact hs.1
  -- After a conflict only the base is read anew, and the template is put on it again.
  | retry => exact ⟨hs, (hread _ rfl).1⟩
  | reread => exact ⟨(hread _ rfl).2 trivial, (hread _ rfl).1⟩
  | interrupt | unready | reject | rouse | lose | giveUp | cut | wake | vanish | sicken => trivial
  | _ => exact hs

theorem Move.hasUpdated (h : Move policy id s x u) (hu : u.HasUpdated) :
    s.HasUpdated ∨ x.persisted?.isSome := by
  cases h with
  | persist => exact .inr rfl
  | start | goOn | hit | miss | measure | draw | pause | reread => exact .inl trivial
  | _ => exact hu.elim

/-- The ordinals that are done grow by one only if a reading reported the next one. -/
theorem Move.reported (h : Move policy id s x u) (hu : u ≠ .ended) (hs : s.Carries t key)
    (hy : x.Answered id y) :
    s.unreported ≤ u.unreported ∨
      s.unreported = u.unreported + 1 ∧ Reported id t.revision (.ofNat u.unreported) [y] := by
  cases h with
  | skip =>
    obtain ⟨reply, rfl, hverdict⟩ := hy
    obtain ⟨latest, rfl, hconverged⟩ := judged_eq_ok_iff.1 hverdict.symm
    exact .inr ⟨rfl, latest, List.mem_singleton_self _, hs.1 ▸ hconverged⟩
  | hit =>
    obtain ⟨reply, rfl, hverdict⟩ := hy
    obtain ⟨latest, rfl, hconverged⟩ := judged_eq_ok_iff.1 (Option.some.inj hverdict).symm
    exact .inr ⟨rfl, latest, List.mem_singleton_self _, hs.1 ▸ hconverged⟩
  | interrupt | unready | reject | rouse | lose | giveUp | cut | wake | vanish | sicken =>
    exact absurd rfl hu
  | _ => exact .inl (Nat.le_refl _)

namespace Underway

variable {first : WorkloadSpec} {count : Nat} {log : List Exchange} {b : Backend}
  {events : List StoreEvent}

/-- Clients that only report break nothing. -/
theorem others {foreign : List StoreCall} (h : Underway id first t count s log store)
    (hcalls : Calls b store foreign store') (hs : store.Sound)
    (hreports : ∀ c ∈ foreign, (StoreEvent.foreign c).OnlyReports id.key) :
    Underway id first t count s log store' := by
  obtain ⟨current, hentry, hfollows⟩ := h.stored
  obtain ⟨current', hentry', hspec⟩ := hcalls.keeps_spec hs hreports hentry
  exact { h with stored := ⟨current', hentry', hspec ▸ hfollows⟩ }

/-- No move does. -/
theorem step (h : Underway id first t count s log store) (hs : store.Sound)
    (hm : Move policy id s x u) (hu : u ≠ .ended) (hy : x.Answered id y)
    (hserved : y.Served store store') : Underway id first t count u (log ++ [y]) store' := by
  obtain ⟨current, hentry, hfollows⟩ := h.stored
  constructor
  case stored =>
    rw [lastPersisted?_append, hy.persisted?]
    exact hm.stored h.carries hy hserved h.stored
  case carries =>
    refine hm.carries h.carries ?_
    rintro latest rfl
    obtain rfl := hy
    -- What is read is what is stored, which has the template once a partition was made durable.
    have hlatest : store.entry id.key = .ok (some latest) := get_eq_ok_iff.1 hserved.1.symm
    obtain rfl : current = latest := by simpa [hentry] using hlatest
    refine ⟨hs.filed _ _ hentry, ?_⟩
    intro hupdated
    obtain ⟨p, hp⟩ := Option.isSome_iff_exists.1 (h.updated hupdated)
    rw [hp] at hfollows
    exact hfollows.1
  case updated =>
    intro hupdated
    rw [lastPersisted?_append, hy.persisted?]
    rcases hm.hasUpdated hupdated with hbefore | hnow
    · simp [h.updated hbefore]
    · simp [hnow]
  case reported =>
    intro q hlow hhigh
    rcases hm.reported hu h.carries hy with hle | ⟨hsucc, latest, hmem, hconverged⟩
    · exact (h.reported q (Nat.le_trans hle hlow) hhigh).append _
    · -- The ordinal at hand is the one just reported, those above were reported before.
      rcases Nat.eq_or_lt_of_le hlow with rfl | hlt
      · exact ⟨latest, List.mem_append_right _ hmem, hconverged⟩
      · exact (h.reported q (hsucc ▸ hlt) hhigh).append _

/-- So it holds to the end of a history in which the moves are answered. -/
theorem moves (h : Underway id first t count s log store) (hs : store.Sound)
    (hm : Moves policy id s calls u) (hu : u ≠ .ended)
    (hexpands : Expands (Verifier.revision.answers id) calls (owned events))
    (hevents : Interleaved b store events store')
    (hreports : ∀ event ∈ events, event.OnlyReports id.key) :
    Underway id first t count u (log ++ owned events) store' := by
  induction hm generalizing log store events with
  | nil =>
    have hidle : owned events = [] := by
      generalize owned events = es at hexpands
      cases hexpands
      rfl
    obtain ⟨foreign, rfl, hcalls⟩ := hevents.calls_of_idle hidle
    rw [hidle, List.append_nil]
    exact h.others hcalls hs fun c hc => hreports _ (List.mem_map_of_mem hc)
  | @cons s r u x calls head tail ih =>
    obtain ⟨y, rest, howned, hy, hrest⟩ := expands_revision_cons hexpands
    obtain ⟨foreign, s₁, s₂, later, rfl, hcalls, hserved, hlater, rfl⟩ := hevents.uncons howned
    -- First the others report, then the call itself is served.
    have hs₁ := hcalls.sound hs
    have hbefore : Underway id first t count s log s₁ := h.others hcalls hs fun c hc =>
      hreports _ (List.mem_append_left _ (List.mem_map_of_mem hc))
    have hafter : Underway id first t count r (log ++ [y]) s₂ :=
      hbefore.step hs₁ head (tail.ne_ended hu) hy hserved
    have hlast := ih hafter (hserved.sound hs₁) hu hrest hlater fun event hevent =>
      hreports event (List.mem_append_right _ (List.mem_cons_of_mem _ hevent))
    rw [howned]
    simpa using hlast

end Underway

end

/-! ## What is stored in the end -/

/-- A specification asks every replica for a template. -/
def WorkloadSpec.AsksAll (t : Template) (spec : WorkloadSpec) : Prop :=
  spec.template = t ∧ (spec.partition = none ∨ spec.partition = some 0)

/-- What a rollout from one set to another leaves stored: `calls` are its calls, `log` is what they
come to at the store. -/
structure Leaves (id : WorkloadId) (current desired : WorkloadSet) (calls log : List Exchange)
    (stored : WorkloadSet) : Prop where
  /-- Every replica was reported to have converged. -/
  reported : ∀ p < desired.spec.replicas, Reported id desired.updateRevision p log
  /-- The ordinals that were behind are updated, and no others. -/
  updated : log.filterMap Exchange.persisted? = calls.filterMap Exchange.behind?
  /-- They go down. -/
  descends : (calls.filterMap Exchange.behind?).Pairwise (· > ·)
  /-- The last of them is the partition; without one the specification is as it was. -/
  follows : current.spec.Follows desired.spec.template stored.spec
    (calls.filterMap Exchange.behind?).getLast?
  /-- All replicas are asked for the template if the lowest one was behind, or if they were before
  and none was behind, and in no other case. -/
  asksAll_iff : stored.spec.AsksAll desired.spec.template ↔
    0 ∈ calls.filterMap Exchange.behind? ∨
      calls.filterMap Exchange.behind? = [] ∧ current.spec.AsksAll desired.spec.template

section

variable {id : WorkloadId} {policy : ConflictRetry} {current desired working : WorkloadSet}
  {calls log es : List Exchange} {store : Store}

/-- The last of some partitions that go down decides whether all replicas are asked. -/
theorem WorkloadSpec.Follows.asksAll_iff {first spec : WorkloadSpec} {t : Template}
    {behind : List UInt32} (h : first.Follows t spec behind.getLast?)
    (hdown : behind.Pairwise (· > ·)) :
    spec.AsksAll t ↔ 0 ∈ behind ∨ behind = [] ∧ first.AsksAll t := by
  cases hlast : behind.getLast? with
  | none =>
    rw [hlast] at h
    obtain rfl : spec = first := h
    obtain rfl : behind = [] := List.getLast?_eq_none_iff.1 hlast
    simp
  | some p =>
    rw [hlast] at h
    obtain ⟨rfl, hp⟩ := h
    have hmem : p ∈ behind := List.mem_of_getLast? hlast
    constructor
    · rintro ⟨-, hnone | hzero⟩
      · simp [hp] at hnone
      · obtain rfl : p = 0 := Option.some.inj (hp.symm.trans hzero)
        exact .inl hmem
    · rintro (hzero | ⟨rfl, -⟩)
      · -- Nothing is below zero, so zero comes last.
        obtain ⟨q, hq, hle⟩ := getLast?_le_of_pairwise hdown hzero
        obtain rfl : p = q := Option.some.inj (hlast.symm.trans hq)
        obtain rfl : p = 0 := UInt32.le_zero_iff.1 hle
        exact ⟨rfl, .inr hp⟩
      · cases hmem

theorem Underway.initial (hentry : store.entry id.key = .ok (some current))
    (hkey : desired.id.key = id.key) :
    Underway id current.spec desired.spec.template desired.spec.replicas.toNat
      (.between desired.spec.replicas.toNat desired) [] store where
  stored := ⟨current, hentry, rfl⟩
  carries := ⟨rfl, hkey⟩
  updated := False.elim
  reported _ hlow hhigh := absurd hhigh (Nat.not_lt.2 hlow)

/-- When every ordinal is done, the invariant says what is left. -/
theorem Underway.leaves
    (h : Underway id current.spec desired.spec.template desired.spec.replicas.toNat
      (.between 0 working) log store)
    (hm : Moves policy id (.between desired.spec.replicas.toNat desired) calls (.between 0 working))
    (hexpands : Expands (Verifier.revision.answers id) calls log) :
    ∃ stored, store.get id = .ok stored ∧ Leaves id current desired calls log stored := by
  obtain ⟨stored, hentry, hfollows⟩ := h.stored
  have hbehind : calls.filterMap Exchange.behind? = calls.filterMap Exchange.persisted? := by
    simpa [Stage.owed] using hm.owed (by simp)
  have hupdated := (persisted_of_expands hexpands).trans hbehind.symm
  rw [lastPersisted?, hupdated] at hfollows
  have hdown : (calls.filterMap Exchange.behind?).Pairwise (· > ·) :=
    hbehind ▸ (hm.persisted_decreasing (Nat.le_of_lt desired.spec.replicas.toNat_lt)).2
  refine ⟨stored, get_eq_ok_iff.2 hentry, ?_, hupdated, hdown, hfollows,
    hfollows.asksAll_iff hdown⟩
  intro p hp
  rw [← UInt32.ofNat_toNat (x := p)]
  exact h.reported p.toNat (Nat.zero_le _) (UInt32.lt_iff_toNat_lt.1 hp)

/-- A run that completes has read the set and computed the desired one, and its further calls lead
from the highest ordinal past the lowest one. -/
theorem run_rollOutSuite_completed {retry : ConflictRetry} {jitter : Bool} {rounds : Nat}
    {timing : Timing} {skipSleep : Bool}
    (h : Run (rollOutSuite (.external timing)
      ⟨externalTransform, ⟨.external, retry, jitter, rounds⟩⟩ id) es
      (.ok (.completed skipSleep))) :
    ∃ current desired calls working,
      es = ⟨.get id, .ok current⟩ :: ⟨.transform current, .ok desired⟩ :: calls ∧
      Moves retry id (.between desired.spec.replicas.toNat desired) calls (.between 0 working) := by
  rcases run_rollOutSuite h with ⟨_, -, hfailed⟩ | ⟨_, _, -, hfailed⟩ |
    ⟨current, desired, calls, ending, rfl, hroll, hending⟩
  · simp [Outcome.completed, Outcome.failed] at hfailed
  · simp [Outcome.completed, Outcome.failed] at hfailed
  · obtain ⟨working, rfl⟩ := map_inStrategy_eq_completed.1 hending.symm
    obtain ⟨t, hm, ht⟩ := run_rollOut hroll
    obtain rfl := ht working _ rfl rfl
    exact ⟨current, desired, calls, working, rfl, hm⟩

end

/-- **What a completed rollout leaves stored.** Other clients only report on the set, and the
transform answers with a version of the set that it was given. If the rollout completes, then every
replica was reported to have converged, and the stored specification is decided by the ordinals that
the pre-checks found behind: it has the template of the transform and the lowest of these ordinals
as its partition, or it is the one that the rollout started from if there are none. -/
theorem rollOutSuite_leaves {retry : ConflictRetry} {jitter : Bool} {rounds : Nat}
    {timing : Timing} {id : WorkloadId} {b : Backend} {s s' : Store} {events : List StoreEvent}
    {skipSleep : Bool} (hs : s.Sound) (hevents : Interleaved b s events s')
    (hreports : ∀ event ∈ events, event.OnlyReports id.key)
    (htransform : ∀ current desired, ⟨.transform current, .ok desired⟩ ∈ owned events →
      desired.id = current.id)
    (h : Run (rollOutSuite (.external timing)
      ⟨externalTransform, ⟨.revision, retry, jitter, rounds⟩⟩ id) (owned events)
      (.ok (.completed skipSleep))) :
    ∃ current desired calls log stored,
      owned events = ⟨.get id, .ok current⟩ :: ⟨.transform current, .ok desired⟩ :: log ∧
      Run (rollOutSuite (.external timing)
        ⟨externalTransform, ⟨.external, retry, jitter, rounds⟩⟩ id)
        (⟨.get id, .ok current⟩ :: ⟨.transform current, .ok desired⟩ :: calls)
        (.ok (.completed skipSleep)) ∧
      Expands (Verifier.revision.answers id) calls log ∧
      s'.get id = .ok stored ∧ Leaves id current desired calls log stored := by
  rw [← handle_rollOutSuite, run_handle_iff (revision_answers_halt id)] at h
  obtain ⟨_, hrun, hall⟩ := h
  obtain ⟨current, desired, calls, working, rfl, hm⟩ := run_rollOutSuite_completed hrun
  obtain ⟨_, _, hfirst, rfl, hafter⟩ := expands_revision_cons hall
  obtain ⟨_, log, rfl, rfl, hexpands⟩ := expands_revision_cons hafter
  refine ⟨current, desired, calls, log, ?_⟩
  -- The set is there when it is read, and until the transform answers others only report on it.
  obtain ⟨before, s₁, _, later, rfl, hbefore, ⟨hread, rfl⟩, hlater, hnext⟩ := hevents.uncons hfirst
  have hs₁ := hbefore.sound hs
  have hentry := get_eq_ok_iff.1 hread.symm
  obtain ⟨meanwhile, s₂, _, rolled, rfl, hmeanwhile, rfl, hrolled, rfl⟩ := hlater.uncons hnext
  have hreports₁ : ∀ c ∈ meanwhile, (StoreEvent.foreign c).OnlyReports id.key := by
    intro c hc
    exact hreports _ (by simp [hc])
  have hreports₂ : ∀ event ∈ rolled, event.OnlyReports id.key := by
    intro event hevent
    exact hreports event (by simp [hevent])
  have hkey : desired.id.key = id.key := by
    rw [htransform current desired (by simp [hfirst]), hs₁.filed _ _ hentry]
  have hunderway := ((Underway.initial hentry hkey).others hmeanwhile hs₁ hreports₁).moves
    (hmeanwhile.sound hs₁) hm (by simp) hexpands hrolled hreports₂
  obtain ⟨stored, hstored, hleaves⟩ := hunderway.leaves hm hexpands
  exact ⟨stored, hfirst, hrun, hexpands, hstored, hleaves⟩

/-! ## A rollout that is taken back -/

namespace Withdrawn

/-- The set that is rolled out. -/
def id : WorkloadId :=
  ⟨"db", "a"⟩

/-- The revision to go back to. -/
def former : String :=
  (Template.ofImage "v1").revision

/-- An earlier rollout has updated the higher one of two replicas and was stopped then. -/
def start : WorkloadSet :=
  putOver none
    { (WorkloadSet.ofSpec id 2 (.ofImage "v2")).withPartition 1 with
      status := ⟨0, [⟨0, former, true, none⟩, ⟨1, former ++ "-next", true, none⟩]⟩ }

/-- What the transform asks for. -/
def desired : WorkloadSet :=
  start.withTemplate (.ofImage "v1")

/-- The update of the higher replica. -/
def sent : WorkloadSet :=
  desired.withPartition 1

/-- The set with this update. -/
def stored : WorkloadSet :=
  withSpec start sent.spec

/-- The report that both replicas run what they ran at first. -/
def report (s : WorkloadStatus) : WorkloadStatus :=
  ⟨s.observedGeneration, [⟨0, former, true, none⟩, ⟨1, former, true, none⟩]⟩

/-- The set with the report. -/
def reported : WorkloadSet :=
  withStatus stored report

/-- The calls after the transform, with the questions to the verifier. -/
def calls : List Exchange :=
  [⟨.stopping, false⟩, ⟨.verify 1 desired, start.status.converged id former 1⟩,
    ⟨.awaitReady, .ok ()⟩, ⟨.update sent, .ok stored⟩, ⟨.now, .zero⟩, ⟨.stopping, false⟩,
    ⟨.check 1 sent, some (reported.status.converged id former 1)⟩, ⟨.get id, .ok reported⟩,
    ⟨.probeHealth (Strategy.checkpoint id) 1, .ok ()⟩, ⟨.stopping, false⟩,
    ⟨.verify 0 reported, reported.status.converged id former 0⟩]

/-- The whole history: the replica is replaced while it is polled. -/
def history : List StoreEvent :=
  [.own ⟨.get id, .ok start⟩, .own ⟨.transform start, .ok desired⟩, .own ⟨.stopping, false⟩,
    .own ⟨.get id, .ok start⟩, .own ⟨.awaitReady, .ok ()⟩, .own ⟨.update sent, .ok stored⟩,
    .own ⟨.now, .zero⟩, .own ⟨.stopping, false⟩,
    .foreign ⟨.updateStatus id report, .stored reported⟩, .own ⟨.get id, .ok reported⟩,
    .own ⟨.get id, .ok reported⟩, .own ⟨.probeHealth (Strategy.checkpoint id) 1, .ok ()⟩,
    .own ⟨.stopping, false⟩, .own ⟨.get id, .ok reported⟩]

/-- The store before the rollout. -/
def before : Store :=
  Store.empty.write id.key start

/-- The store after it. -/
def after : Store :=
  (before.write id.key stored).write id.key reported

theorem sound_before : before.Sound :=
  sound_empty.write rfl

theorem interleaved_history : Interleaved .memory before history after := by
  have hstart : before.entry id.key = .ok (some start) := by simp [before]
  have hstored : (before.write id.key stored).entry id.key = .ok (some stored) := by simp
  have hreported : after.entry id.key = .ok (some reported) := by simp [after]
  have hget : before.get id = .ok start := get_eq_ok_iff.2 hstart
  have hreread : after.get id = .ok reported := get_eq_ok_iff.2 hreported
  have hupdate : before.update sent = .ok (stored, before.write id.key stored) :=
    update_eq_ok_iff.2 ⟨by decide, start, hstart, rfl, rfl, rfl⟩
  have hreport : (before.write id.key stored).perform .memory (.updateStatus id report) =
      (.stored reported, after) :=
    answerWrite_of_ok (updateStatus_eq_ok_iff.2 ⟨stored, hstored, rfl, rfl⟩)
  exact .own ⟨hget.symm, rfl⟩ <| .own rfl <| .own rfl <| .own ⟨hget.symm, rfl⟩ <| .own rfl <|
    .own hupdate <| .own rfl <| .own rfl <| .foreign trivial hreport <|
    .own ⟨hreread.symm, rfl⟩ <| .own ⟨hreread.symm, rfl⟩ <| .own rfl <| .own rfl <|
    .own ⟨hreread.symm, rfl⟩ .nil

/-- The higher replica runs something else at first. -/
theorem converged_start : ∃ cause, start.status.converged id former 1 = .error cause := by
  simp [WorkloadStatus.converged, WorkloadStatus.replica?, start, putOver]

/-- In the end both are back. -/
theorem converged_reported (p : UInt32) (hp : p = 0 ∨ p = 1) :
    reported.status.converged id former p = .ok () := by
  rcases hp with rfl | rfl <;>
    simp [WorkloadStatus.converged, WorkloadStatus.replica?, reported, withStatus, report]

theorem run_history :
    Run (rollOutSuite (.external .standard)
        ⟨externalTransform, ⟨.revision, .standard, false, 3⟩⟩ id)
      (owned history) (.ok (.completed true)) := by
  rw [← handle_rollOutSuite, run_handle_iff (revision_answers_halt id)]
  refine ⟨⟨.get id, .ok start⟩ :: ⟨.transform start, .ok desired⟩ :: calls, ?_, ?_⟩
  · obtain ⟨cause, hcause⟩ := converged_start
    rw [calls, hcause, converged_reported 0 (.inl rfl), converged_reported 1 (.inr rfl)]
    repeat apply Run.ask
    exact .done _
  · have hbehind : Run (Verifier.revision.answers id (.verify 1 desired)) [⟨.get id, .ok start⟩]
        (.ok (start.status.converged id former 1)) :=
      run_verifyRevision former id 1 start
    have hcheck : Run (Verifier.revision.answers id (.check 1 sent)) [⟨.get id, .ok reported⟩]
        (.ok (some (reported.status.converged id former 1))) :=
      run_checkRevision_iff.2 ⟨.ok reported, rfl, rfl⟩
    have hskip : Run (Verifier.revision.answers id (.verify 0 reported))
        [⟨.get id, .ok reported⟩] (.ok (reported.status.converged id former 0)) :=
      run_verifyRevision former id 0 reported
    exact .cons_call rfl <| .cons_call rfl <| .cons_call rfl <| .cons_one hbehind <|
      .cons_call rfl <| .cons_call rfl <| .cons_call rfl <| .cons_call rfl <| .cons_one hcheck <|
      .cons_call rfl <| .cons_call rfl <| .cons_call rfl <| .cons_one hskip .nil

end Withdrawn

/-- The higher replica is taken back, the lower one is skipped because it still runs what it ran at
first. The rollout completes, and the partition stays where it keeps the lower one out. -/
theorem rollOutSuite_leaves_withdrawn :
    Interleaved .memory Withdrawn.before Withdrawn.history Withdrawn.after ∧
      Run (rollOutSuite (.external .standard)
          ⟨externalTransform, ⟨.revision, .standard, false, 3⟩⟩ Withdrawn.id)
        (owned Withdrawn.history) (.ok (.completed true)) ∧
      ∃ stored, Withdrawn.after.get Withdrawn.id = .ok stored ∧
        stored.spec.template = .ofImage "v1" ∧ stored.spec.partition = some 1 ∧
        ¬ stored.spec.AsksAll (.ofImage "v1") := by
  refine ⟨Withdrawn.interleaved_history, Withdrawn.run_history, ?_⟩
  obtain ⟨current, desired, calls, log, stored, howned, -, -, hstored, hleaves⟩ :=
    rollOutSuite_leaves Withdrawn.sound_before Withdrawn.interleaved_history
      (by simp [Withdrawn.history, StoreEvent.OnlyReports])
      (by simp [Withdrawn.history, Withdrawn.desired, WorkloadSet.withTemplate])
      Withdrawn.run_history
  cases howned
  have hbehind : calls.filterMap Exchange.behind? = [1] := hleaves.updated.symm
  obtain ⟨htemplate, hpartition⟩ : stored.spec.template = .ofImage "v1" ∧
      stored.spec.partition = some 1 := by
    have hfollows := hleaves.follows
    rwa [hbehind] at hfollows
  refine ⟨stored, hstored, htemplate, hpartition, ?_⟩
  rintro ⟨-, hnone | hzero⟩
  · simp [hpartition] at hnone
  · simp [hpartition] at hzero

/-! ## A rollout that writes nothing -/

namespace Unwritten

/-- The set that is rolled out. -/
def id : WorkloadId :=
  ⟨"db", "cockroach"⟩

/-- One replica, which is reported to run an image that the set does not ask for. -/
def start : WorkloadSet :=
  putOver none
    { WorkloadSet.ofSpec id 1 (.ofImage "v1") with
      status := ⟨0, [⟨0, (Template.ofImage "v2").revision, true, none⟩]⟩ }

/-- What the transform asks for. -/
def desired : WorkloadSet :=
  start.withTemplate (.ofImage "v2")

/-- The whole history, in which there is no other client. -/
def history : List StoreEvent :=
  [.own ⟨.get id, .ok start⟩, .own ⟨.transform start, .ok desired⟩, .own ⟨.stopping, false⟩,
    .own ⟨.get id, .ok start⟩]

/-- The store, from the first call to the last. -/
def store : Store :=
  Store.empty.write id.key start

theorem get_store : store.get id = .ok start :=
  get_eq_ok_iff.2 (by simp [store])

theorem interleaved_history : Interleaved .memory store history store :=
  .own ⟨get_store.symm, rfl⟩ <| .own rfl <| .own rfl <| .own ⟨get_store.symm, rfl⟩ .nil

theorem converged_start :
    start.status.converged id (Template.ofImage "v2").revision 0 = .ok () := by
  simp [WorkloadStatus.converged, WorkloadStatus.replica?, start, putOver]

theorem run_history :
    Run (rollOutSuite (.external .standard)
        ⟨externalTransform, ⟨.revision, .standard, false, 3⟩⟩ id)
      (owned history) (.ok (.completed true)) := by
  rw [← handle_rollOutSuite, run_handle_iff (revision_answers_halt id)]
  refine ⟨[⟨.get id, .ok start⟩, ⟨.transform start, .ok desired⟩, ⟨.stopping, false⟩,
    ⟨.verify 0 desired, .ok ()⟩], ?_, ?_⟩
  · repeat apply Run.ask
    exact .done _
  · have hskip : Run (Verifier.revision.answers id (.verify 0 desired)) [⟨.get id, .ok start⟩]
        (.ok (.ok ())) :=
      converged_start ▸ run_verifyRevision (Template.ofImage "v2").revision id 0 start
    exact .cons_call rfl <| .cons_call rfl <| .cons_call rfl <| .cons_one hskip .nil

end Unwritten

/-- **A completed rollout need not leave the store asking for what was rolled out.** The replica is
reported to have converged already, so it is skipped and nothing is written. -/
theorem rollOutSuite_completes_unwritten :
    ∃ s events s' current desired stored, s.Sound ∧ Interleaved .memory s events s' ∧
      (∀ event ∈ events, event.OnlyReports Unwritten.id.key) ∧
      ⟨.transform current, .ok desired⟩ ∈ owned events ∧ desired.spec.replicas = 1 ∧
      Run (rollOutSuite (.external .standard)
          ⟨externalTransform, ⟨.revision, .standard, false, 3⟩⟩ Unwritten.id)
        (owned events) (.ok (.completed true)) ∧
      s'.get Unwritten.id = .ok stored ∧ ¬ stored.spec.AsksAll desired.spec.template := by
  refine ⟨Unwritten.store, Unwritten.history, Unwritten.store, Unwritten.start,
    Unwritten.desired, Unwritten.start, sound_empty.write rfl, Unwritten.interleaved_history, ?_,
    ?_, rfl, Unwritten.run_history, Unwritten.get_store, ?_⟩
  · simp [Unwritten.history, StoreEvent.OnlyReports]
  · simp [Unwritten.history]
  · rintro ⟨htemplate, -⟩
    exact absurd htemplate (by decide)

end PartitionedRollout
